import RepoFeed.Number.Binary64

/-
JSON values.

An object is the list of its members in the order of the text, so that one type
serves both for what is read and for what is written.  A value that is kept
without a schema is put into normal form: members sorted by name, and of several
members with one name the last.
-/

namespace RepoFeed
namespace Json

/-- A number is whole when it is written without fraction and exponent and fits
64 bits; everything else is binary64. -/
inductive Number where
  | whole (value : Int)
  | binary (value : Binary64)
deriving DecidableEq, Repr, Inhabited

inductive Value where
  | null
  | truth (value : Bool)
  | number (value : Number)
  | text (value : String)
  | list (items : List Value)
  | object (members : List (String × Value))
deriving Repr, Inhabited

/-! ## Equality of values is decidable -/

mutual

def decEqValue : (a b : Value) → Decidable (a = b)
  | .null, .null => isTrue rfl
  | .truth a, .truth b => if h : a = b then isTrue (h ▸ rfl) else isFalse (by simp [h])
  | .number a, .number b => if h : a = b then isTrue (h ▸ rfl) else isFalse (by simp [h])
  | .text a, .text b => if h : a = b then isTrue (h ▸ rfl) else isFalse (by simp [h])
  | .list a, .list b =>
    match decEqItems a b with
    | isTrue h => isTrue (h ▸ rfl)
    | isFalse h => isFalse (by simp [h])
  | .object a, .object b =>
    match decEqMembers a b with
    | isTrue h => isTrue (h ▸ rfl)
    | isFalse h => isFalse (by simp [h])
  | .null, .truth _ | .null, .number _ | .null, .text _ | .null, .list _
  | .null, .object _ => isFalse nofun
  | .truth _, .null | .truth _, .number _ | .truth _, .text _ | .truth _, .list _
  | .truth _, .object _ => isFalse nofun
  | .number _, .null | .number _, .truth _ | .number _, .text _ | .number _, .list _
  | .number _, .object _ => isFalse nofun
  | .text _, .null | .text _, .truth _ | .text _, .number _ | .text _, .list _
  | .text _, .object _ => isFalse nofun
  | .list _, .null | .list _, .truth _ | .list _, .number _ | .list _, .text _
  | .list _, .object _ => isFalse nofun
  | .object _, .null | .object _, .truth _ | .object _, .number _ | .object _, .text _
  | .object _, .list _ => isFalse nofun

def decEqItems : (a b : List Value) → Decidable (a = b)
  | [], [] => isTrue rfl
  | a :: as, b :: bs =>
    match decEqValue a b, decEqItems as bs with
    | isTrue h, isTrue t => isTrue (by rw [h, t])
    | isFalse h, _ => isFalse (by simp [h])
    | _, isFalse t => isFalse (by simp [t])
  | [], _ :: _ => isFalse nofun
  | _ :: _, [] => isFalse nofun

def decEqMembers : (a b : List (String × Value)) → Decidable (a = b)
  | [], [] => isTrue rfl
  | (m, a) :: as, (n, b) :: bs =>
    match decEq m n, decEqValue a b, decEqMembers as bs with
    | isTrue k, isTrue h, isTrue t => isTrue (by rw [k, h, t])
    | isFalse h, _, _ => isFalse (by simp [h])
    | _, isFalse h, _ => isFalse (by simp [h])
    | _, _, isFalse t => isFalse (by simp [t])
  | [], _ :: _ => isFalse nofun
  | _ :: _, [] => isFalse nofun

end

instance : DecidableEq Value := decEqValue

namespace Value

/-- Puts a member in its place among sorted members, displacing one of the same
name. -/
def insertMember (name : String) (value : Value) :
    List (String × Value) → List (String × Value)
  | [] => [(name, value)]
  | (other, old) :: members =>
    if name = other then (name, value) :: members
    else if name < other then (name, value) :: (other, old) :: members
    else (other, old) :: insertMember name value members

/-- Sorts members by name; a later member displaces an earlier one. -/
def sortMembers (members : List (String × Value)) : List (String × Value) :=
  members.foldl (fun sorted (name, value) => insertMember name value sorted) []

mutual

/-- The normal form of a value. -/
def normal : Value → Value
  | .list items => .list (normalItems items)
  | .object members => .object (sortMembers (normalMembers members))
  | .null => .null
  | .truth b => .truth b
  | .number n => .number n
  | .text s => .text s

def normalItems : List Value → List Value
  | [] => []
  | item :: items => item.normal :: normalItems items

def normalMembers : List (String × Value) → List (String × Value)
  | [] => []
  | (name, value) :: members => (name, value.normal) :: normalMembers members

end

/-- The value of a member; for a value that is not an object there is none. -/
def member? (name : String) : Value → Option Value
  | .object members => (members.find? fun (other, _) => other == name).map (·.2)
  | _ => none

end Value
end Json
end RepoFeed
