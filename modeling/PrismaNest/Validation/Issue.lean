import PrismaNest.Data.Value

/-! What is wrong with data, and where.

An issue has a cause and a place: the keys and positions that lead to the faulty
part, from the outside in. Checking never stops at the first issue.
-/

set_option autoImplicit false

namespace PrismaNest

inductive Place where
  | name (key : String)
  | position (index : Int)
  deriving DecidableEq, Repr

namespace Issue

inductive Cause where
  | missing
  | unknownKey
  | notText
  | emptyText
  | notList
  | notRecord (title : String)
  | notTruth
  | unreadTruth
  | notWhole
  | unreadWhole
  | fractional
  | oversized
  | notFinite
  | below (bound : Int)
  | above (bound : Int)
  | emptyExtension
  | keyNotText
  | noSuchField (name : String)
  deriving DecidableEq, Repr

def Cause.message : Cause → String
  | .missing => "Field required"
  | .unknownKey => "Extra inputs are not permitted"
  | .notText => "Input should be a valid string"
  | .emptyText => "String should have at least 1 character"
  | .notList => "Input should be a valid list"
  | .notRecord title => "Input should be a valid dictionary or instance of " ++ title
  | .notTruth => "Input should be a valid boolean"
  | .unreadTruth => "Input should be a valid boolean, unable to interpret input"
  | .notWhole => "Input should be a valid integer"
  | .unreadWhole => "Input should be a valid integer, unable to parse string as an integer"
  | .fractional => "Input should be a valid integer, got a number with a fractional part"
  | .oversized => "Unable to parse input string as an integer, exceeded maximum size"
  | .notFinite => "Input should be a finite number"
  | .below bound => "Input should be greater than or equal to " ++ toString bound
  | .above bound => "Input should be less than or equal to " ++ toString bound
  | .emptyExtension => "Value error, file_extension must not be empty."
  | .keyNotText => "Keys should be strings"
  | .noSuchField name => "Object has no attribute '" ++ name ++ "'"

end Issue

structure Issue where
  cause : Issue.Cause
  path : List Place
  deriving DecidableEq, Repr

namespace Issue

def inside (place : Place) (issue : Issue) : Issue :=
  ⟨issue.cause, place :: issue.path⟩

/-- The number of whole numbers from zero up that a signed number of 64 bits has. -/
def wordLimit : Int := 9223372036854775808

def fitsWord (number : Int) : Bool :=
  -wordLimit ≤ number && number < wordLimit

/-- The place of a key: whole numbers of at most 64 bits are positions. -/
def keyPlace : Value → Place
  | .text content => .name content
  | .bool flag => .position (if flag then 1 else 0)
  | .int number =>
    if fitsWord number then .position number else .name (toString number)
  | key => .name key.keyText

def summary (title : String) (issues : List Issue) : String :=
  toString issues.length ++ " validation error" ++ (if issues.length = 1 then "" else "s")
    ++ " for " ++ title

end Issue

/-- A value, or everything that is wrong with the data it was to be read from. -/
abbrev Checked (α : Type) := Except (List Issue) α

namespace Checked

variable {α : Type}

def inside (place : Place) (result : Checked α) : Checked α :=
  result.mapError fun issues => issues.map (Issue.inside place)

def refuse (cause : Issue.Cause) : Checked α :=
  .error [⟨cause, []⟩]

/-- The items of a list from some position on, or the issues of all of them. -/
def collectFrom {β : Type} (read : β → Checked α) (index : Nat) : List β → Checked (List α)
  | [] => .ok []
  | item :: rest =>
    match (read item).inside (.position index), collectFrom read (index + 1) rest with
    | .ok first, .ok others => .ok (first :: others)
    | .error issues, .ok _ => .error issues
    | .ok _, .error more => .error more
    | .error issues, .error more => .error (issues ++ more)

end Checked

end PrismaNest
