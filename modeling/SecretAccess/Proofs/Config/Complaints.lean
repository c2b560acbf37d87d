import SecretAccess.Config
import SecretAccess.Proofs.Number.Value

namespace SecretAccess

inductive Setting where
  | databaseUrl
  | maxConnections
  | isolationLevel
  | logLevel
  | serviceName
  deriving DecidableEq

namespace Setting

def all : List Setting := [databaseUrl, maxConnections, isolationLevel, logLevel, serviceName]

def key : Setting → String
  | databaseUrl => "DATABASE_URL"
  | maxConnections => "DATABASE_MAX_CONNECTIONS"
  | isolationLevel => "DATABASE_ISOLATION_LEVEL"
  | logLevel => "LOG_LEVEL"
  | serviceName => "SERVICE_NAME"

def isolationLevels : List String := ["read committed", "repeatable read", "serializable"]

def logLevels : List String := ["trace", "debug", "info", "warn", "error", "fatal", "silent"]

def Usable : Setting → Option String → Prop
  | databaseUrl, asked => ∃ text url, asked = some text ∧ Url.ofText? text = some url
  | maxConnections, asked => ∀ text ∈ asked, ∃ k : ℕ, 0 < k ∧ (Binary64.ofText text).value? = some (k : ℚ)
  | isolationLevel, asked => ∀ text ∈ asked, text ∈ isolationLevels
  | logLevel, asked => ∀ text ∈ asked, text ∈ logLevels
  | serviceName, asked => asked ≠ some ""

/-- What is said about a variable as it is set, if it cannot be used so. -/
inductive Complains : Setting → Option String → List String → Prop
  | usable {setting : Setting} {asked : Option String} (usable : setting.Usable asked) : Complains setting asked []
  | noUrl : Complains databaseUrl none ["is required"]
  | wrongUrl {text : String} (unreadable : Url.ofText? text = none) :
      Complains databaseUrl (some text) ["must be a URL"]
  | noNumber {text : String} (isNan : Binary64.ofText text = .nan) :
      Complains maxConnections (some text) ["Expected number, received nan"]
  | notWhole {text : String} (isNumber : Binary64.ofText text ≠ .nan) (whole : ¬(Binary64.ofText text).IsWhole)
      (positive : (Binary64.ofText text).IsPositive) :
      Complains maxConnections (some text) ["Expected integer, received float"]
  | notPositive {text : String} (whole : (Binary64.ofText text).IsWhole)
      (positive : ¬(Binary64.ofText text).IsPositive) :
      Complains maxConnections (some text) ["Number must be greater than 0"]
  | neither {text : String} (isNumber : Binary64.ofText text ≠ .nan) (whole : ¬(Binary64.ofText text).IsWhole)
      (positive : ¬(Binary64.ofText text).IsPositive) :
      Complains maxConnections (some text) ["Expected integer, received float", "Number must be greater than 0"]
  | isolationUnlisted {text : String} (unlisted : text ∉ isolationLevels) :
      Complains isolationLevel (some text)
        ["Invalid enum value. Expected 'read committed' | 'repeatable read' | 'serializable', received '" ++
          text ++ "'"]
  | logUnlisted {text : String} (unlisted : text ∉ logLevels) :
      Complains logLevel (some text)
        ["Invalid enum value. Expected 'trace' | 'debug' | 'info' | 'warn' | 'error' | 'fatal' | 'silent', received '"
          ++ text ++ "'"]
  | noName : Complains serviceName (some "") ["String must contain at least 1 character(s)"]

theorem Complains.eq_nil_iff {setting : Setting} {asked : Option String} {messages : List String}
    (h : setting.Complains asked messages) : messages = [] ↔ setting.Usable asked := by
  have hcount {text : String} (hnot : ¬((Binary64.ofText text).IsWhole ∧ (Binary64.ofText text).IsPositive)) :
      ¬maxConnections.Usable (some text) := by
    rw [Binary64.isWhole_and_isPositive_iff] at hnot
    exact fun husable => hnot (husable text rfl)
  cases h with
  | usable husable => exact iff_of_true rfl husable
  | noUrl => exact iff_of_false (List.cons_ne_nil _ _) fun ⟨_, _, hasked, _⟩ => nomatch hasked
  | wrongUrl unreadable =>
      refine iff_of_false (List.cons_ne_nil _ _) ?_
      rintro ⟨_, url, hasked, hurl⟩
      cases hasked
      cases unreadable.symm.trans hurl
  | noNumber isNan =>
      refine iff_of_false (List.cons_ne_nil _ _) (hcount ?_)
      rw [isNan]
      rintro ⟨⟨_, hvalue⟩, _⟩
      cases hvalue
  | notWhole _ whole | neither _ whole => exact iff_of_false (List.cons_ne_nil _ _) (hcount fun h => whole h.1)
  | notPositive _ positive => exact iff_of_false (List.cons_ne_nil _ _) (hcount fun h => positive h.2)
  | isolationUnlisted unlisted | logUnlisted unlisted =>
      exact iff_of_false (List.cons_ne_nil _ _) fun h => unlisted (h _ rfl)
  | noName => exact iff_of_false (List.cons_ne_nil _ _) fun h => h rfl

end Setting

namespace Variable

variable {α : Type}

def ofAsked (v : Variable α) : Option String → Except (List String) α
  | some text => v.read (.text text)
  | none => v.missing.mapError ([·])

def complaints (v : Variable α) (asked : Option String) : List String :=
  match v.ofAsked asked with
  | .ok _ => []
  | .error messages => messages

inductive Reads (v : Variable α) (setting : Setting) (asked : Option String) (good : α → Prop) : Prop
  | ok {value : α} (reads : v.ofAsked asked = .ok value) (usable : setting.Usable asked) (isGood : good value)
  | error {messages : List String} (reads : v.ofAsked asked = .error messages)
      (complains : setting.Complains asked messages) (isSome : messages ≠ [])

variable {v : Variable α} {setting : Setting} {asked : Option String} {good : α → Prop}

theorem Reads.complains (h : v.Reads setting asked good) : setting.Complains asked (v.complaints asked) := by
  cases h with
  | ok reads usable =>
      rw [complaints, reads]
      exact .usable usable
  | error reads complains =>
      rw [complaints, reads]
      exact complains

theorem reads_databaseUrl (asked : Option String) :
    databaseUrl.Reads .databaseUrl asked fun url => asked = some url := by
  cases asked with
  | none => exact .error rfl .noUrl (List.cons_ne_nil _ _)
  | some text =>
      cases hurl : Url.ofText? text with
      | none =>
          refine .error ?_ (.wrongUrl hurl) (List.cons_ne_nil _ _)
          simp [databaseUrl, ofAsked, ofText, hurl, Except.mapError]
      | some url =>
          refine .ok ?_ ⟨text, url, rfl, hurl⟩ rfl
          simp [databaseUrl, ofAsked, ofText, hurl, Except.mapError]

theorem countProblems_of_ne_nan {n : Binary64} (h : n ≠ .nan) : countProblems n =
    (if n.isInteger then [] else ["Expected integer, received float"]) ++
      if n.isPositive then [] else ["Number must be greater than 0"] := by
  cases n with
  | nan => exact absurd rfl h
  | infinite | finite => rfl

theorem complains_countProblems (text : String) :
    Setting.Complains .maxConnections (some text) (countProblems (.ofText text)) := by
  by_cases hnan : Binary64.ofText text = .nan
  · rw [hnan]
    exact .noNumber hnan
  · rw [countProblems_of_ne_nan hnan]
    have hwhole := Binary64.isInteger_iff (n := .ofText text)
    have hpositive := Binary64.isPositive_iff (n := .ofText text)
    cases hi : (Binary64.ofText text).isInteger <;> cases hp : (Binary64.ofText text).isPositive <;>
      rw [hi] at hwhole <;> rw [hp] at hpositive
    · exact .neither hnan (mt hwhole.2 Bool.false_ne_true) (mt hpositive.2 Bool.false_ne_true)
    · exact .notWhole hnan (mt hwhole.2 Bool.false_ne_true) (hpositive.1 rfl)
    · exact .notPositive (hwhole.1 rfl) (mt hpositive.2 Bool.false_ne_true)
    · refine .usable fun _ hasked => ?_
      cases hasked
      exact Binary64.isWhole_and_isPositive_iff.1 ⟨hwhole.1 rfl, hpositive.1 rfl⟩

theorem reads_maxConnections (asked : Option String) :
    maxConnections.Reads .maxConnections asked fun n => n = asked.elim (.ofNat 10) .ofText := by
  cases asked with
  | none => exact .ok rfl (fun _ hasked => nomatch hasked) rfl
  | some text =>
      have hcomplains := complains_countProblems text
      have hset : countSet (.text text) = .ofText text := rfl
      by_cases hnone : countProblems (.ofText text) = []
      · refine .ok ?_ (hcomplains.eq_nil_iff.1 hnone) rfl
        simp only [ofAsked, maxConnections, hset, if_pos hnone]
        rfl
      · refine .error ?_ hcomplains hnone
        simp only [ofAsked, maxConnections, hset, if_neg hnone]

theorem reads_choice {key : String} {label : α → String} {choices : List α} {fallback : α} (setting : Setting)
    (asked : Option String) (husable : setting.Usable asked ↔ ∀ text ∈ asked, text ∈ choices.map label)
    (hcomplains : ∀ text, text ∉ choices.map label → setting.Complains (some text)
      ["Invalid enum value. Expected " ++ String.intercalate " | " (choices.map fun value => s!"'{label value}'") ++
        ", received '" ++ text ++ "'"]) :
    (choice key label choices fallback).Reads setting asked fun value =>
      label value = asked.getD (label fallback) := by
  cases asked with
  | none => exact .ok rfl (husable.2 fun _ hasked => nomatch hasked) rfl
  | some text =>
      cases hfound : choices.find? (label · = text) with
      | some value =>
          have hlabel : label value = text := by simpa using List.find?_some hfound
          have hreads : (choice key label choices fallback).ofAsked (some text) = .ok value := by
            simp only [ofAsked, choice, hfound]
          refine .ok hreads (husable.2 ?_) hlabel
          rintro _ hasked
          cases hasked
          exact List.mem_map.2 ⟨value, List.mem_of_find?_eq_some hfound, hlabel⟩
      | none =>
          refine .error ?_ (hcomplains text ?_) (List.cons_ne_nil _ _)
          · simp only [ofAsked, choice, hfound]
            rfl
          · rintro hmem
            obtain ⟨value, hvalue, hlabel⟩ := List.mem_map.1 hmem
            exact absurd hlabel (by simpa using List.find?_eq_none.1 hfound value hvalue)

theorem reads_isolationLevel (asked : Option String) : isolationLevel.Reads .isolationLevel asked fun level =>
    level.label = asked.getD "read committed" :=
  reads_choice .isolationLevel asked Iff.rfl fun _ => .isolationUnlisted

theorem reads_logLevel (asked : Option String) :
    logLevel.Reads .logLevel asked fun level => level.label = asked.getD "info" :=
  reads_choice .logLevel asked Iff.rfl fun _ => .logUnlisted

theorem reads_serviceName (asked : Option String) :
    serviceName.Reads .serviceName asked fun name => name = asked.getD "warden" := by
  cases asked with
  | none => exact .ok rfl (fun h => nomatch h) rfl
  | some text =>
      by_cases hempty : text = ""
      · subst hempty
        exact .error rfl .noName (List.cons_ne_nil _ _)
      · refine .ok ?_ (fun hasked => hempty (Option.some.inj hasked)) rfl
        simp only [ofAsked, serviceName, ofText, if_neg hempty]
        rfl

end Variable

def Setting.complaints : Setting → Option String → List String
  | databaseUrl => Variable.databaseUrl.complaints
  | maxConnections => Variable.maxConnections.complaints
  | isolationLevel => Variable.isolationLevel.complaints
  | logLevel => Variable.logLevel.complaints
  | serviceName => Variable.serviceName.complaints

theorem Setting.complains (setting : Setting) (asked : Option String) :
    setting.Complains asked (setting.complaints asked) := by
  cases setting with
  | databaseUrl => exact (Variable.reads_databaseUrl asked).complains
  | maxConnections => exact (Variable.reads_maxConnections asked).complains
  | isolationLevel => exact (Variable.reads_isolationLevel asked).complains
  | logLevel => exact (Variable.reads_logLevel asked).complains
  | serviceName => exact (Variable.reads_serviceName asked).complains

namespace Variable

variable {α : Type} (v : Variable α) (settings : List (String × String))

end Variable

namespace Config

variable (settings : List (String × String))

def complaints : List (Setting × String) :=
  Setting.all.flatMap fun setting => (setting.complaints (settings.lookup setting.key)).map (setting, ·)

end Config

namespace Variable

variable {α : Type} {v : Variable α} {setting : Setting} {asked : Option String} {good : α → Prop}

end Variable

namespace Config

variable {settings : List (String × String)}

example : complaints [("SERVICE_NAME", ""), ("DATABASE_MAX_CONNECTIONS", "-1.5")] =
    [(.databaseUrl, "is required"), (.maxConnections, "Expected integer, received float"),
      (.maxConnections, "Number must be greater than 0"),
      (.serviceName, "String must contain at least 1 character(s)")] := by decide

end Config

end SecretAccess
