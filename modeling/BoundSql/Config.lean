import BoundSql.Dialect
import BoundSql.Error
import BoundSql.Toml.Reader
/-!
# Configuration

A configuration chooses a dialect, whether compiled statements are logged and how
much of them, and how they are laid out.  It can be read from a TOML document, in
which every part can be left out and unknown keys say nothing, but have values that
can be read.
-/

namespace BoundSql

structure Config where
  dialect : DialectChoice := .generic
  logsStatements : Bool := true
  /-- How many bytes of a statement are logged, if not all. -/
  loggedLength : Option Nat := some 200
  indent : Nat := 4
deriving DecidableEq

namespace Config

instance : Inhabited Config := ⟨{}⟩

def validate (config : Config) : Except Error Unit :=
  if config.indent = 0 ∨ maxIndent < config.indent then
    .error (.config (.indentOutOfRange config.indent))
  else
    .ok ()

/-- The value of a key that can be left out, or the given one. -/
private def keyed {α : Type} (key : String) (read? : Toml → Option α) (absent : α)
    (members : Toml.Members) : Option α :=
  match Toml.find? key members with
  | none => some absent
  | some value => read? value

private def bool? : Toml → Option Bool
  | .bool value => some value
  | _ => none

private def size? : Toml → Option Nat
  | .integer value => if 0 ≤ value ∧ value < Int.pow 2 64 then some value.toNat else none
  | _ => none

private def choice? : String → Option DialectChoice
  | "generic" => some .generic
  | "mysql" => some .mysql
  | "my_sql" => some .mysql
  | _ => none

/-- A dialect by its name, which can also be the only key of a table, with nothing
in it. -/
private def dialect? : Toml → Option DialectChoice
  | .text name => choice? name
  | .table _ [(name, .table _ [])] => choice? name
  | .table _ [(name, .array [])] => choice? name
  | _ => none

/-- Whether the values of unknown keys can be passed over, which takes numbers that
can be used. -/
private def passesOver (known : List String) (members : Toml.Members) : Bool :=
  members.all fun (key, value) => known.contains key || value.isUsable

/-- The indent of a table for the layout, or of an array that starts with it.
What follows it there is not looked at.  A date or time has parts as well, none of
which is an indent. -/
private def indent? (absent : Nat) : Toml → Option Nat
  | .table _ members =>
    if passesOver ["indent"] members then keyed "indent" size? absent members else none
  | .array [] => some absent
  | .array (first :: _) => size? first
  | .moment => some absent
  | _ => none

def ofToml (text : String) : Except Error Config := do
  let absent : Config := {}
  let read? : Option Config := do
    let members ← Toml.read? text
    if !passesOver ["dialect", "log_sql", "max_logged_sql_length", "format"] members then none
    return {
      dialect := ← keyed "dialect" dialect? absent.dialect members
      logsStatements := ← keyed "log_sql" bool? absent.logsStatements members
      loggedLength := ←
        keyed "max_logged_sql_length" (fun value => (size? value).map some)
          absent.loggedLength members
      indent := ← keyed "format" (indent? absent.indent) absent.indent members }
  match read? with
  | none => .error (.config .unreadable)
  | some config =>
    config.validate
    return config

end Config

end BoundSql
