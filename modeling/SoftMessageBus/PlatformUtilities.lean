import Mathlib.Tactic.Linarith
import Mathlib.Data.List.Basic
import Mathlib.Data.List.Induction

/-!
# Utilities of the platform

Square roots and timestamps in machine integers, and the rotation of the log.
-/
namespace SoftMessageBus

/-- The loop of `zoo_isqrt`; a division by zero has no result. -/
def isqrtLoop (value x y : UInt32) : Option UInt32:=
  if h : y<x then
    if y=0 then none else isqrtLoop value y ((y+value/y)/2)
  else some x
termination_by x.toNat
decreasing_by exact UInt32.lt_iff_toNat_lt.mp h

def isqrt (value : UInt32) : Option UInt32:=if value=0 then some 0 else isqrtLoop value value ((value+1)/2)

section
variable {v x : ℕ}

lemma add_div_le (hx : 0<x) (hle : x≤v) : x+v/x≤v+1:=by
  have hmul : x*(v/x)≤v:=Nat.mul_div_le v x
  obtain ⟨a,ha⟩:=Nat.exists_eq_add_of_lt hx
  obtain ⟨b,hb⟩:=Nat.exists_eq_add_of_lt (Nat.div_pos hle hx)
  rw [hb,ha] at hmul ⊢
  nlinarith

/-- No step of the iteration goes below the root. -/
lemma lt_newton_sq (hx : 0<x) : v<((x+v/x)/2+1)*((x+v/x)/2+1):=by
  have hv : v<x*(v/x+1):=Nat.lt_mul_div_succ v hx
  generalize v/x=q at hv ⊢
  have hy : x+(q+1)≤2*((x+q)/2+1):=by omega
  have hsq : 4*x*(q+1)≤(x+(q+1))^2:=four_mul_le_pow_two_add x (q+1)
  nlinarith [Nat.mul_self_le_mul_self hy]

end

lemma isqrtLoop_isGreatest (value x y : UInt32) (hv : value.toNat+1<2^32) (hx : 0<x.toNat)
    (hle : x.toNat≤value.toNat) (hy : y.toNat=(x.toNat+value.toNat/x.toNat)/2)
    (hlt : value.toNat<(x.toNat+1)*(x.toNat+1)) :
    ∃ r, isqrtLoop value x y=some r ∧ IsGreatest {s : ℕ | s*s≤value.toNat} r.toNat:=by
  fun_induction isqrtLoop value x y with
  | case1 x h=>
    have hdiv:=Nat.div_pos hle hx
    rw [UInt32.toNat_zero] at hy
    omega
  | case2 x y h hz ih=>
    have hyx:=UInt32.lt_iff_toNat_lt.mp h
    have hpos : 0<y.toNat:=by
      have hdiv:=Nat.div_pos hle hx
      omega
    refine ih hpos (by omega) ?_ (hy ▸ lt_newton_sq hx)
    have hadd:=add_div_le hpos (hyx.le.trans hle)
    rw [UInt32.toNat_div,UInt32.toNat_add,UInt32.toNat_div,Nat.mod_eq_of_lt (by omega)]
    rfl
  | case3 x y h=>
    rw [UInt32.lt_iff_toNat_lt] at h
    refine ⟨x,rfl,?_,fun s hs=>?_⟩
    · exact (Nat.le_div_iff_mul_le hx).1 (by omega)
    · -- a larger number has a square above the value
      by_contra hsx
      have hmul:=Nat.mul_self_le_mul_self (Nat.not_le.1 hsx)
      exact absurd (hmul.trans hs) (Nat.not_le.2 hlt)

/-- The first sum wraps to 0, by which the loop then divides. -/
lemma isqrt_eq_none : isqrt 0xFFFFFFFF=none:=by
  rw [isqrt,isqrtLoop]
  rfl

theorem isqrt_exact_iff (value : UInt32) :
    (∃ r, isqrt value=some r ∧ IsGreatest {s : ℕ | s*s≤value.toNat} r.toNat) ↔ value≠0xFFFFFFFF:=by
  constructor
  · rintro ⟨r,hr,-⟩ rfl
    exact absurd (isqrt_eq_none ▸ hr) (Option.some_ne_none r).symm
  · intro hne
    by_cases hz : value=0
    · subst hz
      exact ⟨0,rfl,Nat.le_refl 0,fun s hs=>(mul_self_eq_zero.mp (Nat.le_zero.mp hs)).le⟩
    · have hv : value.toNat≠4294967295:=fun h=>hne (UInt32.toNat_inj.mp h)
      have hlt:=value.toNat_lt
      have hpos : 0<value.toNat:=Nat.pos_of_ne_zero fun h=>hz (UInt32.toNat_inj.mp h)
      rw [isqrt,if_neg hz]
      refine isqrtLoop_isGreatest value value _ (by omega) hpos le_rfl ?_ (by nlinarith)
      rw [Nat.div_self hpos,UInt32.toNat_div,UInt32.toNat_add,Nat.mod_eq_of_lt (by simp; omega)]
      rfl

theorem isqrt_max_not_exact : ¬∃ r, isqrt 0xFFFFFFFF=some r ∧ IsGreatest {s : ℕ | s*s≤4294967295} r.toNat:=by
  simp [isqrt_eq_none]

/-- `ZOO_TIMESTAMP_T`. -/
structure Timestamp where
  seconds : UInt64
  nanoseconds : UInt32

inductive TimestampFormat where
  | seconds
  | milliseconds
  | microseconds
  | nanoseconds

inductive TimestampError where
  | invalidParam
  | bufferOverflow
  deriving DecidableEq

section
variable (t : Timestamp)

def validateTimestamp : Except TimestampError Unit:=if 1000000000≤t.nanoseconds then throw .invalidParam else pure ()

/-- The cases of `zoo_convert_timestamp` in which the seconds are multiplied. -/
def scaleTimestamp (factor : UInt64) (divisor : UInt32) : Except TimestampError UInt64:=
  if 18446744073709551615/factor<t.seconds then throw .bufferOverflow
  else pure (t.seconds*factor+(t.nanoseconds/divisor).toUInt64)

def convertTimestamp (format : TimestampFormat) : Except TimestampError UInt64:=do
  validateTimestamp t
  match format with
  | .seconds=>pure t.seconds
  | .milliseconds=>scaleTimestamp t 1000 1000000
  | .microseconds=>scaleTimestamp t 1000000 1000
  | .nanoseconds=>scaleTimestamp t 1000000000 1

def calculateTimeDifference (start stop : Timestamp) : Except TimestampError UInt64:=do
  validateTimestamp start
  validateTimestamp stop
  let startNs:=start.seconds*1000000000+start.nanoseconds.toUInt64
  let stopNs:=stop.seconds*1000000000+stop.nanoseconds.toUInt64
  pure (if startNs ≤ stopNs then stopNs-startNs else 18446744073709551615-startNs+stopNs+1)

/-- A timestamp that passes the check. -/
structure ValidTimestamp extends Timestamp where
  valid : validateTimestamp toTimestamp=.ok ()

/-- The nanoseconds since the epoch, without a bound. -/
def Timestamp.total : ℕ:=t.seconds.toNat*1000000000+t.nanoseconds.toNat

/-- The unit of a format in nanoseconds. -/
def TimestampFormat.unit : TimestampFormat→ℕ
  | .seconds=>1000000000
  | .milliseconds=>1000000
  | .microseconds=>1000
  | .nanoseconds=>1

/-- A conversion gives the truncated value, or overflows because it does not fit. -/
def ConvertsExactly (exact : ℕ) : Except TimestampError UInt64→Prop
  | .ok value=>value.toNat=exact
  | .error e=>e=.bufferOverflow ∧ 2^64≤exact

lemma ValidTimestamp.nanoseconds_lt (t : ValidTimestamp) : t.nanoseconds.toNat<1000000000:=by
  by_contra hle
  have hvalid:=t.valid
  rw [validateTimestamp,if_pos (UInt32.le_iff_toNat_le.mpr (Nat.not_lt.1 hle))] at hvalid
  cases hvalid

lemma scaleTimestamp_convertsExactly_iff {factor : UInt64} {divisor : UInt32}
    (h : factor.toNat*divisor.toNat=1000000000) :
    ConvertsExactly (t.total/divisor.toNat) (scaleTimestamp t factor divisor) ↔
      t.total/divisor.toNat<2^64 ∨ (2^64-1)/factor.toNat<t.seconds.toNat:=by
  have hd : 0<divisor.toNat:=Nat.pos_of_ne_zero fun hz=>by simp [hz] at h
  have hf : 0<factor.toNat:=Nat.pos_of_ne_zero fun hz=>by simp [hz] at h
  have hexact : t.total/divisor.toNat=
      t.seconds.toNat*factor.toNat+t.nanoseconds.toNat/divisor.toNat:=by
    rw [Timestamp.total,← h,← Nat.mul_assoc,Nat.mul_comm _ divisor.toNat,Nat.mul_add_div hd]
  have hguard : (18446744073709551615/factor<t.seconds) ↔ (2^64-1)/factor.toNat<t.seconds.toNat:=by
    rw [UInt64.lt_iff_toNat_lt,UInt64.toNat_div]
    rfl
  by_cases hover : (2^64-1)/factor.toNat<t.seconds.toNat
  · rw [scaleTimestamp,if_pos (hguard.mpr hover)]
    refine iff_of_true ⟨rfl,?_⟩ (.inr hover)
    have hmul:=(Nat.div_lt_iff_lt_mul hf).1 hover
    rw [hexact]
    exact Nat.le_add_right_of_le (by omega)
  · rw [scaleTimestamp,if_neg (mt hguard.mp hover)]
    have hvalue : (t.seconds*factor+(t.nanoseconds/divisor).toUInt64).toNat=
        t.total/divisor.toNat % 2^64:=by
      rw [hexact,UInt64.toNat_add,UInt64.toNat_mul,UInt32.toNat_toUInt64,UInt32.toNat_div,Nat.mod_add_mod]
    refine Iff.trans ?_ (or_iff_left hover).symm
    change _=_ ↔ _
    rw [hvalue,Nat.mod_eq_iff_lt (by decide)]

lemma toNat_nanoseconds : (t.seconds*1000000000+t.nanoseconds.toUInt64).toNat=t.total % 2^64:=by
  simp [Timestamp.total]

end

lemma toNat_wrapped_sub {startNs stopNs : UInt64} {start stop : ℕ}
    (hstart : startNs.toNat=start % 2^64) (hstop : stopNs.toNat=stop % 2^64) (hle : start ≤ stop) (hlt : stop-start<2^64) :
    (if startNs ≤ stopNs then stopNs-startNs else 18446744073709551615-startNs+stopNs+1).toNat=stop-start:=by
  split
  case isTrue h=>
    rw [UInt64.toNat_sub_of_le _ _ h]
    rw [UInt64.le_iff_toNat_le] at h
    omega
  case isFalse h=>
    rw [UInt64.le_iff_toNat_le] at h
    simp only [UInt64.toNat_add,UInt64.toNat_sub,UInt64.reduceToNat]
    omega

lemma calculateTimeDifference_eq {start stop : ValidTimestamp} (hle : start.total ≤ stop.total)
    (hlt : stop.total-start.total<2^64) :
    ∃ diff, calculateTimeDifference start.toTimestamp stop.toTimestamp=.ok diff ∧ diff.toNat=stop.total-start.total:=by
  refine ⟨_,?_,toNat_wrapped_sub (toNat_nanoseconds _) (toNat_nanoseconds _) hle hlt⟩
  rw [calculateTimeDifference,start.valid,stop.valid]
  rfl

theorem timestamp_exact_iff (t : ValidTimestamp) (format : TimestampFormat) :
    (ConvertsExactly (t.total/format.unit) (convertTimestamp t.toTimestamp format) ∧
      ∀ start stop : ValidTimestamp, start.total ≤ stop.total→stop.total-start.total<2^64→
        ∃ diff, calculateTimeDifference start.toTimestamp stop.toTimestamp=.ok diff ∧ diff.toNat=stop.total-start.total) ↔
    t.total/format.unit<2^64 ∨ (2^64-1)/(1000000000/format.unit)<t.seconds.toNat:=by
  rw [and_iff_left fun start stop=>calculateTimeDifference_eq]
  unfold convertTimestamp
  rw [t.valid]
  have hns:=t.nanoseconds_lt
  have hsec:=t.seconds.toNat_lt
  cases format with
  | seconds=>
    have htotal : t.total/1000000000=t.seconds.toNat:=by
      rw [Timestamp.total]
      omega
    change t.seconds.toNat=t.total/1000000000 ↔ t.total/1000000000<2^64 ∨ _
    rw [htotal]
    exact iff_of_true rfl (.inl hsec)
  | milliseconds=>exact scaleTimestamp_convertsExactly_iff _ rfl
  | microseconds=>exact scaleTimestamp_convertsExactly_iff _ rfl
  | nanoseconds=>exact scaleTimestamp_convertsExactly_iff _ rfl

/-- The last nanosecond of the last second whose conversion to nanoseconds is not refused. -/
def wrappingTimestamp : ValidTimestamp:=⟨⟨18446744073,999999999⟩,rfl⟩

theorem timestamp_exact_milliseconds :
    wrappingTimestamp.total/TimestampFormat.milliseconds.unit=18446744073999 ∧
      ConvertsExactly (wrappingTimestamp.total/TimestampFormat.milliseconds.unit)
        (convertTimestamp wrappingTimestamp.toTimestamp .milliseconds):=
  ⟨by decide,((timestamp_exact_iff wrappingTimestamp .milliseconds).2 (.inl (by decide))).1⟩

/-- In the last second before the guard the sum wraps. -/
theorem convertTimestamp_wraps :
    convertTimestamp wrappingTimestamp.toTimestamp .nanoseconds=.ok 290448383 ∧ 2^64≤wrappingTimestamp.total:=by
  decide

/-! ## Rotation of the log -/

open List Function

structure LogConfig where
  maxFileSize : ℕ
  maxBackupFiles : ℕ

/-- The contents of the files, where a missing backup is `none`. -/
structure LogFiles where
  active : List UInt8
  backups : ℕ→Option (List UInt8)
  currentFileSize : ℕ

/-- `rename` of a backup to the next number; it fails when there is no such file. -/
def renameBackup (backups : ℕ→Option (List UInt8)) (i : ℕ) : ℕ→Option (List UInt8):=
  match backups i with
  | none=>backups
  | some content=>update (update backups i none) (i+1) (some content)

/-- The loop of `rotate_log_file`, which goes down to backup 1. -/
def renameBackups (backups : ℕ→Option (List UInt8)) : ℕ→ℕ→Option (List UInt8)
  | 0=>backups
  | n+1=>renameBackups (renameBackup backups (n+1)) n

def rotateLogFile (config : LogConfig) (log : LogFiles) : LogFiles:=
  if config.maxBackupFiles=0 then log
  else
    let removed:=update log.backups config.maxBackupFiles none
    let renamed:=renameBackups removed (config.maxBackupFiles-1)
    ⟨[],update renamed 1 (some log.active),0⟩

/-- `write_to_file`; files are below `2^63` bytes, so that the sum of the sizes does not wrap. -/
def writeToFile (config : LogConfig) (log : LogFiles) (entry : List UInt8) : LogFiles:=
  let log:=
    if 0<config.maxFileSize ∧ config.maxFileSize<log.currentFileSize+entry.length then
      rotateLogFile config log
    else log
  {log with active:=log.active++entry, currentFileSize:=log.currentFileSize+entry.length}

/-- The backups from number `n` down to 1. -/
def backupContents (backups : ℕ→Option (List UInt8)) (n : ℕ) : List (List UInt8):=
  (range n).reverse.filterMap fun i=>backups (i+1)

section
variable {backups : ℕ→Option (List UInt8)}

lemma renameBackup_apply {i : ℕ} (h : backups (i+1)=none) (j : ℕ) :
    renameBackup backups i j=if j=i then none else if j=i+1 then backups i else backups j:=by
  unfold renameBackup
  cases hi : backups i with
  | none=>grind
  | some content=>grind

lemma renameBackups_apply {n : ℕ} (h : backups (n+1)=none) (j : ℕ) :
    renameBackups backups n j=if j=0 ∨ n+1<j then backups j else if j=1 then none else backups (j-1):=by
  induction n generalizing backups with
  | zero=>
    rw [renameBackups]
    grind
  | succ n ih=>
    rw [renameBackups,ih (by rw [renameBackup_apply h,if_pos rfl])]
    simp only [renameBackup_apply h]
    grind

lemma backupContents_succ (n : ℕ) :
    backupContents backups (n+1)=(backups (n+1)).toList++backupContents backups n:=by
  rw [backupContents,range_succ,reverse_append,filterMap_append]
  cases h : backups (n+1) <;> simp [h,backupContents]

end

lemma backups_rotateLogFile (config : LogConfig) (log : LogFiles) {n : ℕ} (h : config.maxBackupFiles=n+1) (j : ℕ) :
    (rotateLogFile config log).backups j=
      if j=1 then some log.active
      else if j=0 ∨ n+1<j then log.backups j else log.backups (j-1):=by
  rw [rotateLogFile,if_neg (by omega),h]
  simp only [update_apply,Nat.add_sub_cancel]
  rw [renameBackups_apply (by simp)]
  grind

/-- A rotation drops the last backup and keeps the files before it in order. -/
lemma backupContents_rotateLogFile (config : LogConfig) (log : LogFiles) {n : ℕ} (h : config.maxBackupFiles=n+1) :
    backupContents (rotateLogFile config log).backups (n+1)=backupContents log.backups n++[log.active]:=by
  rw [backupContents,range_succ_eq_map,reverse_cons,filterMap_append,← map_reverse,filterMap_map]
  congr 1
  · refine filterMap_congr fun i hi=>?_
    rw [mem_reverse,mem_range] at hi
    simp only [comp_apply,backups_rotateLogFile config log h]
    grind
  · simp [backups_rotateLogFile config log h]

/-- The files are those that the last entries fill, and none but a single entry is too large. -/
structure LogKept (config : LogConfig) (entries : List (List UInt8)) (log : LogFiles) : Prop where
  files : ∃ dropped older last, entries=dropped++flatten older++last ∧
    backupContents log.backups config.maxBackupFiles=older.map flatten ∧
    log.active=last.flatten ∧
    ∀ file∈older++[last], file.flatten.length≤config.maxFileSize ∨ file.length=1
  size : log.currentFileSize=log.active.length
  missing : ∀ i, config.maxBackupFiles < i→log.backups i=none

/-- A configuration under which the log rotates. -/
structure RotatingConfig extends LogConfig where
  size_pos : 0 < maxFileSize
  backups_pos : 0 < maxBackupFiles

lemma LogKept.writeToFile {config : RotatingConfig} {entries : List (List UInt8)}
    {log : LogFiles} (h : LogKept config.toLogConfig entries log) (entry : List UInt8) :
    LogKept config.toLogConfig (entries++[entry]) (writeToFile config.toLogConfig log entry):=by
  obtain ⟨⟨dropped,older,last,hentries,holder,hactive,hsmall⟩,hsize,hnone⟩:=h
  unfold SoftMessageBus.writeToFile
  by_cases hfull : config.maxFileSize<log.currentFileSize+entry.length
  · obtain ⟨n,hn⟩:=Nat.exists_eq_succ_of_ne_zero (Nat.ne_of_gt config.backups_pos)
    have hempty : (rotateLogFile config.toLogConfig log).active=[] ∧
        (rotateLogFile config.toLogConfig log).currentFileSize=0:=by
      rw [rotateLogFile,if_neg (Nat.ne_of_gt config.backups_pos)]
      exact ⟨rfl,rfl⟩
    let k:=(log.backups (n+1)).toList.length
    have hkept : backupContents log.backups n=(older.drop k).map flatten:=by
      rw [map_drop,← holder,hn,backupContents_succ,drop_left' rfl]
    have hparts : older.flatten=(older.take k).flatten++(older.drop k).flatten:=by
      rw [← flatten_append,take_append_drop]
    rw [if_pos ⟨config.size_pos,hfull⟩]
    refine ⟨⟨dropped++(older.take k).flatten,older.drop k++[last],[entry],?_,?_,?_,?_⟩,?_,?_⟩
    · simp [hentries,hparts]
    · rw [hn,backupContents_rotateLogFile _ _ hn,hkept,hactive,map_append,map_singleton]
    · simp [hempty]
    · intro file hfile
      rw [mem_append,mem_append] at hfile
      rcases hfile with (hold | hlast) | hnew
      · exact hsmall file (mem_append_left _ (mem_of_mem_drop hold))
      · exact hsmall file (mem_append_right _ hlast)
      · exact .inr (mem_singleton.1 hnew ▸ rfl)
    · simp [hempty]
    · intro i hi
      rw [hn] at hi
      have hi':=hnone i (hn ▸ hi)
      simp only [backups_rotateLogFile _ _ hn]
      grind
  · rw [if_neg (fun h=>hfull h.2)]
    refine ⟨⟨dropped,older,last++[entry],?_,holder,?_,?_⟩,?_,hnone⟩
    · simp [hentries]
    · simp [hactive]
    · intro file hfile
      rcases mem_append.1 hfile with hold | hlast
      · exact hsmall file (mem_append_left _ hold)
      · left
        rw [mem_singleton.1 hlast,flatten_concat,length_append,← hactive,← hsize]
        exact Nat.not_lt.1 hfull
    · simp [hsize]

def LogFiles.empty : LogFiles:=⟨[],fun _=>none,0⟩

/-- A log that starts empty keeps the last entries, file by file. -/
theorem log_rotation_keeps_suffix (config : RotatingConfig) (entries : List (List UInt8)) :
    let log:=entries.foldl (writeToFile config.toLogConfig) .empty
    (∃ dropped files, entries=dropped++flatten files ∧
      backupContents log.backups config.maxBackupFiles++[log.active]=files.map flatten ∧
      ∀ file∈files, file.flatten.length≤config.maxFileSize ∨ file.length=1) ∧
    ∀ i, config.maxBackupFiles < i→log.backups i=none:=by
  have hkept : LogKept config.toLogConfig entries
      (entries.foldl (writeToFile config.toLogConfig) .empty):=by
    induction entries using reverseRecOn with
    | nil=>
      exact ⟨⟨[],[],[],rfl,by simp [backupContents,LogFiles.empty],rfl,by simp⟩,rfl,fun _ _=>rfl⟩
    | append_singleton entries entry ih=>
      rw [foldl_concat]
      exact ih.writeToFile entry
  obtain ⟨⟨dropped,older,last,hentries,holder,hactive,hsmall⟩,-,hnone⟩:=hkept
  refine ⟨⟨dropped,older++[last],?_,?_,hsmall⟩,hnone⟩
  · simp [hentries]
  · rw [holder,hactive,map_append,map_singleton]

def sampleRotation : RotatingConfig:=⟨⟨4,2⟩,by decide,by decide⟩

def sampleEntries : List (List UInt8):=[[1,2,3],[4,5],[6,7,8],[9],[10]]

/-- Three rotations, of which the last removes the first entry. -/
theorem log_rotation_keeps_suffix_rotated :
    let log:=sampleEntries.foldl (writeToFile sampleRotation.toLogConfig) .empty
    (log.backups 2=some [4,5] ∧ log.backups 1=some [6,7,8,9] ∧ log.active=[10]) ∧
      ∃ dropped files, sampleEntries=dropped++flatten files ∧
        backupContents log.backups 2++[log.active]=files.map flatten ∧
        ∀ file∈files, file.flatten.length≤4 ∨ file.length=1:=
  ⟨by decide,(log_rotation_keeps_suffix sampleRotation sampleEntries).1⟩

end SoftMessageBus
