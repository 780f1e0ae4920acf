import Enrollment.Text.Blank
import Enrollment.Text.Digits
import Enrollment.Text.Quoted

/-! # Settings of the store

Where the store is, how many connections to it are kept open, and whether its statements are
logged. Settings come from variables; all but the address may be missing.

* `ofVariables_eq_missing_iff`: the address is called missing iff it is missing or blank. -/

namespace Enrollment

/-- How to reach the store. -/
structure Settings where
  url : String
  maxConnections : Nat
  sqlLogging : Bool
deriving DecidableEq, Repr

/-- What is wrong with the variables. -/
inductive SettingsFault where
  | missing (name : String)
  | invalid (name : String) (value : String)
deriving DecidableEq, Repr

/-- The wording of a fault. -/
def SettingsFault.message : SettingsFault → String
  | missing name => name ++ " is not set"
  | invalid name value => name ++ " has an invalid value " ++ Text.quoted value

namespace Settings

def urlName : String := "DATABASE_URL"
def maxConnectionsName : String := "DATABASE_MAX_CONNECTIONS"
def sqlLoggingName : String := "DATABASE_SQL_LOGGING"

/-- The count of connections unless the variables say otherwise. -/
def defaultConnections : Nat := 10

/-- The number that decimal digits stand for, if there are any and nothing else. -/
def digits? (cs : List Char) : Option Nat :=
  if cs.isEmpty || !cs.all Char.isDigit then none
  else some (Text.digitsNumber cs)

/-- A positive 32-bit count, with or without a plus sign, between white space. -/
def connections? (s : String) : Option Nat :=
  let number := match (Text.trim s).toList with
    | '+' :: cs => digits? cs
    | cs => digits? cs
  number.filter fun n => 0 < n && n < 0x100000000

/-- A switch in one of its spellings, in either case, between white space; nothing is off. -/
def switch? (s : String) : Option Bool :=
  let word := (Text.trim s).map Char.toLower
  if ["1", "true", "yes", "on"].contains word then some true
  else if ["0", "false", "no", "off", ""].contains word then some false
  else none

/-- The value of a variable, read; a default if there is no such variable. -/
def read {α : Type} (name : String) (value : Option String) (default : α)
    (parse : String → Option α) : Except SettingsFault α :=
  match value with
  | none => .ok default
  | some text =>
    match parse text with
    | some a => .ok a
    | none => .error (.invalid name text)

/-- The settings that variables make. -/
def ofVariables (value : String → Option String) : Except SettingsFault Settings :=
  match (value urlName).filter (!Text.isBlank ·) with
  | none => .error (.missing urlName)
  | some url => do
    let maxConnections ←
      read maxConnectionsName (value maxConnectionsName) defaultConnections connections?
    let sqlLogging ← read sqlLoggingName (value sqlLoggingName) false switch?
    return ⟨url, maxConnections, sqlLogging⟩

theorem read_ne_missing {α : Type} {name other : String} {value : Option String} {default : α}
    {parse : String → Option α} : read name value default parse ≠ .error (.missing other) := by
  unfold read
  split
  · simp
  · split <;> simp

theorem ofVariables_eq_missing_iff {value : String → Option String} {name : String} :
    ofVariables value = .error (.missing name) ↔
      name = urlName ∧ ∀ url, value urlName = some url → Text.isBlank url = true := by
  unfold ofVariables
  split <;> rename_i h
  · rw [Option.filter_eq_none_iff] at h
    constructor
    · intro e
      injection e with e; injection e with e
      exact ⟨e.symm, fun url hu => by simpa using h url hu⟩
    · rintro ⟨rfl, -⟩; rfl
  · rename_i url
    rw [Option.filter_eq_some_iff] at h
    constructor
    · intro e
      exfalso
      cases hc : read maxConnectionsName (value maxConnectionsName) defaultConnections
          connections? with
      | error f =>
        simp only [hc, bind, Except.bind] at e
        injection e with e
        exact read_ne_missing (e ▸ hc)
      | ok n =>
        cases hl : read sqlLoggingName (value sqlLoggingName) false switch? with
        | error f =>
          simp only [hc, hl, bind, Except.bind] at e
          injection e with e
          exact read_ne_missing (e ▸ hl)
        | ok b => simp [hc, hl, bind, Except.bind, pure, Except.pure] at e
    · rintro ⟨-, hb⟩
      simp [hb url h.1] at h

end Settings

end Enrollment
