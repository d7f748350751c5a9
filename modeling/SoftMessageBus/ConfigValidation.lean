import SoftMessageBus.StepRuns

/-!
# The configuration

What the validation makes of the settings in a configuration file.
-/
namespace SoftMessageBus
open StepRuns

/-- The settings that `validate_config` reads. -/
inductive ConfigSetting where
  | portMin
  | portMax
  | ttl
  | defaultThreadNumbers
  | maxThreadQueueSize
  | sendHighWatermark
  | sendLowWatermark
  | ingressHighWatermark
  | ingressLowWatermark
  | memoryHighWatermarkPct
  | memoryLowWatermarkPct
  | memPoolSize
  | maxQueueSize
  | maxTransportBufferSize
  deriving DecidableEq

/-- The values of a field of `ZOO_SMB_CONFIG_STRUCT` are below this. -/
def ConfigSetting.bound : ConfigSetting→ℤ
  | .portMin | .portMax | .defaultThreadNumbers=>65536
  | .ttl=>256
  | _=>4294967296

/-- The integers in a configuration file. -/
abbrev ConfigFile:=ConfigSetting→Option ℤ
abbrev SmbConfig:=ConfigSetting→ℕ

def defaultConfig : SmbConfig
  | .portMin=>13800
  | .portMax=>15800
  | .ttl=>1
  | .defaultThreadNumbers=>4
  | .maxThreadQueueSize=>128
  | .sendHighWatermark=>96
  | .sendLowWatermark=>64
  | .ingressHighWatermark | .ingressLowWatermark=>0
  | .memoryHighWatermarkPct=>85
  | .memoryLowWatermarkPct=>70
  | .memPoolSize=>4*1024*1024
  | .maxQueueSize=>10240
  | .maxTransportBufferSize=>40*1024

/-- `load_config_sections`: the assignments of `get_config_int` to the unsigned fields. -/
def loadConfigSections (file : ConfigFile) : SmbConfig:=fun setting=>
  match file setting with
  | some value=>(value % setting.bound).toNat
  | none=>defaultConfig setting

/-- `load_effective_config`; the file may not be readable. -/
def loadEffectiveConfig (file : Option ConfigFile) : SmbConfig:=file.elim defaultConfig loadConfigSections
def halfWatermark (high : ℕ) : ℕ:=if high/2=0 then 1 else high/2

/-- The correction of a high and a low watermark, with the value for a high watermark of 0. -/
def correctWatermarks (fallback high low : ℕ) : ℕ × ℕ:=
  let high:=if high=0 then fallback else high
  (high,if low=0 ∨ high≤low then halfWatermark high else low)

namespace SmbConfig
variable (c : SmbConfig)

def sendWatermarks : ℕ × ℕ:=
  correctWatermarks (if 0<c .maxThreadQueueSize then c .maxThreadQueueSize else 128)
    (c .sendHighWatermark) (c .sendLowWatermark)

def ingressWatermarks : ℕ × ℕ:=
  correctWatermarks (if 0<c .maxQueueSize then c .maxQueueSize else 1024)
    (c .ingressHighWatermark) (c .ingressLowWatermark)

def memoryWatermarks : ℕ × ℕ:=
  let high:=if c .memoryHighWatermarkPct=0 ∨ 100<c .memoryHighWatermarkPct then 85
    else c .memoryHighWatermarkPct
  let low:=c .memoryLowWatermarkPct
  (high,if low=0 ∨ high≤low then if high≤70 then halfWatermark high else 70 else low)

/-- `validate_config`. -/
def validate : Option SmbConfig:=
  if c .portMax≤c .portMin then none
  else some fun
    | .defaultThreadNumbers=>if c .defaultThreadNumbers=0 then 1 else c .defaultThreadNumbers
    | .memPoolSize=>if c .memPoolSize<1024 then 1024 else c .memPoolSize
    | .maxTransportBufferSize=>
      if c .maxTransportBufferSize=0 then 40*1024 else c .maxTransportBufferSize
    | .sendHighWatermark=>c.sendWatermarks.1
    | .sendLowWatermark=>c.sendWatermarks.2
    | .ingressHighWatermark=>c.ingressWatermarks.1
    | .ingressLowWatermark=>c.ingressWatermarks.2
    | .memoryHighWatermarkPct=>c.memoryWatermarks.1
    | .memoryLowWatermarkPct=>c.memoryWatermarks.2
    | .ttl=>if c .ttl=0 then 1 else c .ttl
    | setting=>c setting

/-- `zoo_smb_config_init`, which ignores the result of the validation. -/
def init (file : Option ConfigFile) : SmbConfig:=(loadEffectiveConfig file).validate.getD (loadEffectiveConfig file)

/-- `zoo_smb_config_reload`: the configuration is left as it is on a failure. -/
def reload (file : Option ConfigFile) : SmbConfig:=(file.bind fun settings=>(loadConfigSections settings).validate).getD c

def Consistent : Prop:=
  c .portMin<c .portMax ∧
    (0<c .defaultThreadNumbers ∧ 0<c .maxTransportBufferSize ∧ 1024≤c .memPoolSize) ∧
    (0<c .sendLowWatermark ∧ c .sendLowWatermark<c .sendHighWatermark) ∧
    (0<c .ingressLowWatermark ∧ c .ingressLowWatermark<c .ingressHighWatermark) ∧
    0<c .memoryLowWatermarkPct ∧ c .memoryLowWatermarkPct<c .memoryHighWatermarkPct
  deriving Decidable

/-- The high watermarks leave room for a low one. -/
def HighsAboveOne : Prop:=c.sendWatermarks.1≠1 ∧ c.ingressWatermarks.1≠1 ∧ c.memoryWatermarks.1≠1

lemma correctWatermarks_iff {fallback : ℕ} (h : 0<fallback) (high low : ℕ) :
    0<(correctWatermarks fallback high low).2 ∧
        (correctWatermarks fallback high low).2<(correctWatermarks fallback high low).1 ↔
      (correctWatermarks fallback high low).1≠1:=by
  simp only [correctWatermarks,halfWatermark]
  split_ifs <;> omega

variable {c}

lemma memoryWatermarks_iff :
    0<c.memoryWatermarks.2 ∧ c.memoryWatermarks.2<c.memoryWatermarks.1 ↔ c.memoryWatermarks.1≠1:=by
  simp only [memoryWatermarks,halfWatermark]
  split_ifs <;> omega

lemma sendWatermarks_iff : 0<c.sendWatermarks.2 ∧ c.sendWatermarks.2<c.sendWatermarks.1 ↔
    c.sendWatermarks.1≠1:=
  correctWatermarks_iff (by split <;> omega) _ _

lemma ingressWatermarks_iff :
    0<c.ingressWatermarks.2 ∧ c.ingressWatermarks.2<c.ingressWatermarks.1 ↔ c.ingressWatermarks.1≠1:=
  correctWatermarks_iff (by split <;> omega) _ _

lemma validate_of_ports (h : c .portMin<c .portMax) :
    ∃ next, c.validate=some next ∧ (next.Consistent ↔ c.HighsAboveOne):=by
  refine ⟨_,if_neg (Nat.not_le.2 h),?_⟩
  rw [HighsAboveOne,← sendWatermarks_iff,← ingressWatermarks_iff,← memoryWatermarks_iff]
  refine (and_iff_right h).trans (and_iff_right ⟨?_,?_,?_⟩)
  all_goals
    dsimp only
    split <;> omega

lemma consistent_init_iff (file : Option ConfigFile) : (init file).Consistent ↔
    loadEffectiveConfig file .portMin<loadEffectiveConfig file .portMax ∧ (loadEffectiveConfig file).HighsAboveOne:=by
  rw [init]
  by_cases hports : loadEffectiveConfig file .portMin<loadEffectiveConfig file .portMax
  · obtain ⟨next,hnext,hiff⟩:=validate_of_ports hports
    rw [hnext,Option.getD_some,hiff]
    exact (and_iff_right hports).symm
  · rw [validate,if_pos (Nat.le_of_not_lt hports),Option.getD_none]
    exact iff_of_false (fun h=>hports h.1) fun h=>hports h.1

/-- A file that can be read and has a range of ports has high watermarks above 1. -/
def ReloadsSafely (file : Option ConfigFile) : Prop:=
  ∀ settings∈file, loadConfigSections settings .portMin<loadConfigSections settings .portMax→
    (loadConfigSections settings).HighsAboveOne

lemma Consistent.reload_iff (h : c.Consistent) (file : Option ConfigFile) :
    (c.reload file).Consistent ↔ ReloadsSafely file:=by
  cases file with
  | none=>exact iff_of_true h (by simp [ReloadsSafely])
  | some settings=>
    rw [reload,Option.bind_some]
    by_cases hports : loadConfigSections settings .portMin<loadConfigSections settings .portMax
    · obtain ⟨next,hnext,hiff⟩:=validate_of_ports hports
      rw [hnext,Option.getD_some,hiff]
      simp [ReloadsSafely,hports]
    · rw [validate,if_pos (Nat.le_of_not_lt hports),Option.getD_none]
      exact iff_of_true h (by simp [ReloadsSafely,hports])

/-- The active configuration is consistent exactly if the first file has a range of ports and no
file has a high watermark of 1. -/
theorem active_config_consistent_iff (first : Option ConfigFile) (files : List (Option ConfigFile)) :
    (init first).Consistent ∧
        Along reload (fun c file=>(c.reload file).Consistent) (init first) files ↔
      (loadEffectiveConfig first .portMin<loadEffectiveConfig first .portMax ∧
        (loadEffectiveConfig first).HighsAboveOne) ∧
        Along reload (fun _ file=>ReloadsSafely file) (init first) files:=by
  rw [consistent_init_iff]
  refine and_congr_right fun hfirst=>?_
  exact along_iff_of_invariant Consistent (fun c file h hsafe=>(h.reload_iff file).2 hsafe)
    (fun c file h=>h.reload_iff file) ((consistent_init_iff first).2 hfirst) files

/-- A range of ports that is empty, and a high watermark of 1, become active. -/
theorem active_config_inconsistent :
    ¬(init (some fun setting=>if setting=.portMin then some 15800 else none)).Consistent ∧
      (init none).Consistent ∧ ¬((init none).reload
        (some fun setting=>if setting=.sendHighWatermark then some 1 else none)).Consistent:=by
  decide

end SmbConfig
end SoftMessageBus
