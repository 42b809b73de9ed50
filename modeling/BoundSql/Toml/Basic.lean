/-!
# TOML documents

A document is a table of keys and values.  Tables remember how they came about,
because that decides what may still be added to them: a table is defined once by a
header, or is built up by dotted keys, or is complete in itself when written in
braces.  A document can also hold numbers that cannot be used, and `isUsable` tells
whether a value is free of them.
-/

namespace BoundSql

/-- How a table came about. -/
inductive Toml.Origin where
  /-- As a parent of a table with a header. -/
  | implied
  /-- By its own header. -/
  | header
  /-- As a part of dotted keys. -/
  | dotted
  /-- In braces. -/
  | closed
deriving DecidableEq

inductive Toml where
  | text (content : String)
  | integer (value : Int)
  | bool (value : Bool)
  /-- A number with a fraction or an exponent, or one that is not finite. -/
  | real
  | moment
  /-- What is written as a number but is too large for one, or has characters that
  make it none. -/
  | unusable
  | array (items : List Toml)
  | table (origin : Toml.Origin) (members : List (String × Toml))
  /-- An array of tables with headers, last table first. -/
  | tables (items : List (List (String × Toml)))

namespace Toml

/-- The keys of a table and their values, in the order of the document. -/
abbrev Members := List (String × Toml)

def find? (key : String) (members : Members) : Option Toml :=
  (members.find? fun member => member.1 == key).map Prod.snd

/-- The members with another value for a key, which is added if it is new. -/
def put (key : String) (value : Toml) : Members → Members
  | [] => [(key, value)]
  | (present, held) :: rest =>
    if present = key then (key, value) :: rest else (present, held) :: put key value rest

mutual

/-- Whether all numbers in a value can be used. -/
def isUsable : Toml → Bool
  | .unusable => false
  | .array items => itemsUsable items
  | .table _ members => membersUsable members
  | .tables items => tablesUsable items
  | _ => true

def itemsUsable : List Toml → Bool
  | [] => true
  | item :: items => isUsable item && itemsUsable items

def membersUsable : List (String × Toml) → Bool
  | [] => true
  | (_, value) :: members => isUsable value && membersUsable members

def tablesUsable : List (List (String × Toml)) → Bool
  | [] => true
  | members :: items => membersUsable members && tablesUsable items

end

/-- Gives a value to a new key.  The parts before the last one lead to a table of
dotted keys, on the way to which there can be tables that have no header of their
own and the last tables of arrays. -/
def define? (value : Toml) : (path : List String) → Members → Option Members
  | [], _ => none
  | [key], members =>
    match find? key members with
    | none => some (put key value members)
    | some _ => none
  | key :: path, members =>
    match find? key members with
    | none => do
      some (put key (.table .dotted (← define? value path [])) members)
    | some (.table .dotted inner) => do
      some (put key (.table .dotted (← define? value path inner)) members)
    | some (.table .implied inner) =>
      if path.length = 1 then none
      else do some (put key (.table .implied (← define? value path inner)) members)
    | some (.tables (last :: earlier)) =>
      if path.length = 1 then none
      else do some (put key (.tables ((← define? value path last) :: earlier)) members)
    | some _ => none

def openTable? : (path : List String) → Members → Option Members
  | [], _ => none
  | [key], members =>
    match find? key members with
    | none => some (put key (.table .header []) members)
    | some (.table .implied inner) => some (put key (.table .header inner) members)
    | some _ => none
  | key :: path, members =>
    match find? key members with
    | none => do
      some (put key (.table .implied (← openTable? path [])) members)
    | some (.table origin inner) =>
      if origin = .closed then none
      else do some (put key (.table origin (← openTable? path inner)) members)
    | some (.tables (last :: earlier)) => do
      some (put key (.tables ((← openTable? path last) :: earlier)) members)
    | some _ => none

def openItem? : (path : List String) → Members → Option Members
  | [], _ => none
  | [key], members =>
    match find? key members with
    | none => some (put key (.tables [[]]) members)
    | some (.tables items) => some (put key (.tables ([] :: items)) members)
    | some _ => none
  | key :: path, members =>
    match find? key members with
    | none => do
      some (put key (.table .implied (← openItem? path [])) members)
    | some (.table origin inner) =>
      if origin = .closed then none
      else do some (put key (.table origin (← openItem? path inner)) members)
    | some (.tables (last :: earlier)) => do
      some (put key (.tables ((← openItem? path last) :: earlier)) members)
    | some _ => none

/-- Changes the table that a header has opened. -/
def within? (change : Members → Option Members) :
    (path : List String) → Members → Option Members
  | [], members => change members
  | key :: path, members =>
    match find? key members with
    | some (.table origin inner) => do
      some (put key (.table origin (← within? change path inner)) members)
    | some (.tables (last :: earlier)) => do
      some (put key (.tables ((← within? change path last) :: earlier)) members)
    | _ => none

end Toml

end BoundSql
