import RepoFeed.Text.Split

/-
The options of the command line.

Options come as `--name value`, `--name=value`, `-o value`, `-ovalue` or
`-o=value`.  A value that is a word of its own is taken at first and checked only
when the next option comes or the line ends; until then an unknown word can still
be the first thing that is objected to.
-/

namespace RepoFeed
namespace CommandLine

structure Options where
  owner : String
  repo : String
  output : Option String
  cacheDirectory : Option String
  cacheKey : String
  callback : String
  noCache : Bool
deriving DecidableEq, Repr

inductive Fault where
  | unknownArgument
  | invalidValue
  | repeatedOption
  | tooManyValues
  | helpRequested
  | versionRequested
deriving DecidableEq, Repr

/-- Options that take a value. -/
inductive ValueOption where
  | owner | repo | output | cacheDirectory | cacheKey | callback
deriving DecidableEq, Repr

/-- Options that stand alone. -/
inductive Flag where
  | noCache | help | version
deriving DecidableEq, Repr

/-- What a word can name. -/
inductive Switch where
  | value (option : ValueOption)
  | flag (flag : Flag)
deriving DecidableEq, Repr

def long? : List Char → Option Switch
  | name =>
    match String.ofList name with
    | "owner" => some (.value .owner)
    | "repo" => some (.value .repo)
    | "output" => some (.value .output)
    | "cache-dir" => some (.value .cacheDirectory)
    | "cache-key" => some (.value .cacheKey)
    | "callback" => some (.value .callback)
    | "no-cache" => some (.flag .noCache)
    | "help" => some (.flag .help)
    | "version" => some (.flag .version)
    | _ => none

def short? : Char → Option Switch
  | 'o' => some (.value .output)
  | 'h' => some (.flag .help)
  | 'V' => some (.flag .version)
  | _ => none

/-- What the line has said so far, each thing at most once. -/
structure Draft where
  owner : Option String := none
  repo : Option String := none
  output : Option String := none
  cacheDirectory : Option String := none
  cacheKey : Option String := none
  callback : Option String := none
  noCache : Bool := false
deriving DecidableEq, Repr

namespace Draft

def get? (draft : Draft) : ValueOption → Option String
  | .owner => draft.owner
  | .repo => draft.repo
  | .output => draft.output
  | .cacheDirectory => draft.cacheDirectory
  | .cacheKey => draft.cacheKey
  | .callback => draft.callback

def put (draft : Draft) (value : String) : ValueOption → Draft
  | .owner => { draft with owner := some value }
  | .repo => { draft with repo := some value }
  | .output => { draft with output := some value }
  | .cacheDirectory => { draft with cacheDirectory := some value }
  | .cacheKey => { draft with cacheKey := some value }
  | .callback => { draft with callback := some value }

/-- Gives an option its value.  Paths cannot be empty. -/
def assign (draft : Draft) (option : ValueOption) (value : String) : Except Fault Draft :=
  if (draft.get? option).isSome then .error .repeatedOption
  else if value = "" ∧ (option = .output ∨ option = .cacheDirectory) then .error .invalidValue
  else .ok (draft.put value option)

def raise (draft : Draft) : Flag → Except Fault Draft
  | .noCache => if draft.noCache then .error .repeatedOption else .ok { draft with noCache := true }
  | .help => .error .helpRequested
  | .version => .error .versionRequested

def complete (draft : Draft) : Options where
  owner := draft.owner.getD "thomasmoelhave"
  repo := draft.repo.getD "tpie"
  output := draft.output
  cacheDirectory := draft.cacheDirectory
  cacheKey := draft.cacheKey.getD "tpieevents"
  callback := draft.callback.getD "tpieevents"
  noCache := draft.noCache

end Draft

/-- An option whose value is a word of its own: not yet seen, or not yet
checked. -/
structure Pending where
  option : ValueOption
  value : Option String
deriving DecidableEq, Repr

structure State where
  draft : Draft := {}
  pending : Option Pending := none
deriving DecidableEq, Repr

namespace State

/-- Checks the value that is pending. -/
def settle (state : State) : Except Fault Draft :=
  match state.pending with
  | none => .ok state.draft
  | some ⟨_, none⟩ => .error .invalidValue
  | some ⟨option, some value⟩ => state.draft.assign option value

/-- Whether the next word can be a value. -/
def awaitsValue (state : State) : Option ValueOption :=
  match state.pending with
  | some ⟨option, none⟩ => some option
  | _ => none

/-- Takes an option with the value that is attached to it, if there is one. -/
def takeValue (state : State) (option : ValueOption) (attached : Option String) :
    Except Fault State := do
  let draft ← state.settle
  match attached with
  | some value => return { draft := ← draft.assign option value }
  | none => return { draft, pending := some ⟨option, none⟩ }

def takeFlag (state : State) (flag : Flag) : Except Fault State := do
  return { draft := ← (← state.settle).raise flag }

/-- Takes a word that starts with two dashes, given without them. -/
def takeLong (state : State) (word : List Char) : Except Fault State :=
  let (name, attached) := Text.cut (· == '=') word
  let attached := attached.map String.ofList
  match long? name, attached with
  | some (.value option), _ => state.takeValue option attached
  | some (.flag _), some _ => .error .tooManyValues
  | some (.flag flag), none => state.takeFlag flag
  | none, _ => .error .unknownArgument

/-- Takes a word that starts with one dash, given without it: flags, and at last
an option that takes the rest of the word as its value. -/
def takeShort (state : State) : List Char → Except Fault State
  | [] => .ok state
  | c :: rest =>
    match short? c with
    | some (.flag flag) => do takeShort (← state.takeFlag flag) rest
    | some (.value option) =>
      match rest with
      | [] => state.takeValue option none
      | '=' :: value => state.takeValue option (some (String.ofList value))
      | value => state.takeValue option (some (String.ofList value))
    | none => .error .unknownArgument

/-- Takes a word that is no option: the value that is awaited, or a mistake. -/
def takeWord (state : State) (word : String) : Except Fault State :=
  match state.awaitsValue with
  | some option => .ok { state with pending := some ⟨option, some word⟩ }
  | none => .error .unknownArgument

/-- Takes a word other than the two dashes that end the options. -/
def take (state : State) (word : String) : Except Fault State :=
  match word.toList with
  | '-' :: '-' :: rest => state.takeLong rest
  | '-' :: c :: rest => state.takeShort (c :: rest)
  | _ => state.takeWord word

/-- Takes all words.  Nothing may follow the two dashes that end the options. -/
def takeAll : State → List String → Except Fault State
  | state, [] => .ok state
  | state, word :: words =>
    if word = "--" then
      if words.isEmpty then .ok state else .error .unknownArgument
    else do takeAll (← state.take word) words

end State

/-- Reads the words of a command line. -/
def parse (words : List String) : Except Fault Options := do
  let state ← State.takeAll {} words
  return (← state.settle).complete

end CommandLine
end RepoFeed
