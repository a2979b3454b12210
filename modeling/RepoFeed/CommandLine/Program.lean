import RepoFeed.CommandLine.Log
import RepoFeed.CommandLine.Options
import RepoFeed.Refresh.Basic

/-
The whole program as a function.

A run takes words, an environment, a clock, a time zone, an output, what the server
would reply and a file system, and gives an exit code, what it wrote and the file system
after it.  Once the words, the token and the client are accepted, no problem is more
than a line in the log; but a panic ends a run wherever it comes.
-/

namespace RepoFeed
namespace CommandLine

/-- The variables that a run looks at, and the home directory of the account. -/
structure Environment where
  home : Option String
  accountHome : Option String
  cacheHome : Option String
  token : Option String
  logFilter : Option String
deriving DecidableEq, Repr

structure Invocation where
  words : List String
  environment : Environment
  /-- Milliseconds since 1970-01-01T00:00:00Z. -/
  clock : Int
  /-- How many seconds local time is ahead of UTC at a second of UTC. -/
  zone : Int → Int
  output : Sink
  /-- Why there can be no client to send requests, if that is so, as it is reported. -/
  clientFault : Option String
  /-- What comes back if a request is sent. -/
  reply : Reply

structure Run where
  code : Nat
  output : Utf8.Octets
  /-- The lines of the log.  The report of a panic is not one of them. -/
  log : List String
  files : Storage.FileSystem
  requests : List Request

/-- What a run works on: files, and the output so far. -/
structure Machine where
  files : Storage.FileSystem
  output : Utf8.Octets

def name : String := "activity-feed"

def version : String := "0.1.0"

def versionText : String := name ++ " " ++ version ++ "\n"

def helpText : String :=
  "Render recent GitHub repository activity as HTML\n\n" ++
  "Usage: activity-feed [OPTIONS]\n\n" ++
  "Options:\n" ++
  "      --owner <OWNER>          Repository owner [default: thomasmoelhave]\n" ++
  "      --repo <REPO>            Repository name [default: tpie]\n" ++
  "  -o, --output <OUTPUT>        Write the fragment to this file instead of stdout\n" ++
  "      --cache-dir <CACHE_DIR>  Directory holding the snapshot cache " ++
    "(default: platform cache dir)\n" ++
  "      --cache-key <CACHE_KEY>  Storage key of the snapshot [default: tpieevents]\n" ++
  "      --callback <CALLBACK>    JSON-P callback name sent to the API [default: tpieevents]\n" ++
  "      --no-cache               Ignore and do not write the snapshot cache\n" ++
  "  -h, --help                   Print help\n" ++
  "  -V, --version                Print version\n"

/-- The home directory: the one that is set, else the one of the account.  An empty one
is none. -/
def Environment.homeDirectory (environment : Environment) : Option Storage.Path :=
  let named (text : Option String) := text.filter (· ≠ "")
  ((named environment.home).or (named environment.accountHome)).map .mk

/-- Where snapshots are kept if no directory is given.  Without a home directory they
are kept nowhere, wherever caches belong. -/
def Environment.cacheDirectory (environment : Environment) : Option Storage.Path :=
  environment.homeDirectory.map fun home =>
    let base : Storage.Path :=
      match environment.cacheHome with
      | some text => if Storage.Path.isAbsolute ⟨text⟩ then ⟨text⟩ else home.join ⟨".cache"⟩
      | none => home.join ⟨".cache"⟩
    base.join ⟨name⟩

/-- An empty token is none. -/
def Environment.usedToken (environment : Environment) : Token :=
  match environment.token with
  | some "" => none
  | token => token

/-- The directory of the cache, unless there is none or it is not to be used. -/
def Options.cacheAt (options : Options) (environment : Environment) : Option Storage.Path :=
  if options.noCache then none
  else
    match options.cacheDirectory with
    | some text => some ⟨text⟩
    | none => environment.cacheDirectory

def cacheNotice : Option Storage.Path → Notice
  | some directory => .usingCache directory.text
  | none => .cacheDisabled

def Options.target (options : Options) (output : Sink) : Target Machine :=
  match options.output with
  | some text => (Target.file ⟨text⟩).within (·.files) fun m files => { m with files }
  | none => (Target.stream output).within (·.output) fun m output => { m with output }

def Options.refresher (options : Options) (invocation : Invocation) : Refresher Machine where
  cache := {
    store := (options.cacheAt invocation.environment).map fun directory =>
      (Storage.fileStore directory).within (·.files) fun m files => { m with files }
    key := options.cacheKey }
  target := options.target invocation.output
  view := ⟨⟨options.owner, options.repo⟩, ⟨.ofMillis invocation.clock, invocation.zone⟩⟩
  endpoint := ⟨⟨options.owner, options.repo⟩, options.callback⟩
  token := invocation.environment.usedToken

/-! ## Before the refresh -/

/-- The code of a run that a panic ends. -/
def panicCode : Nat := 101

/-- What a run comes to before it looks at any snapshot: an end, or a refresh. -/
inductive Opening where
  | ended (code : Nat) (output : Utf8.Octets) (log : List String)
  | ready (options : Options) (filter : Filter)

/-- A run that only tells about the program, as far as the output takes it. -/
def Opening.told (output : Sink) (text : String) : Opening :=
  .ended 0 (output.write [] (Utf8.encode text.toList)).1 []

/-- Whether a clock can be read. -/
def isReadableClock (clock : Int) : Bool :=
  0 ≤ clock && clock / 1000 ≤ Time.Stamp.greatestSecond

/-- The log up to the refresh. -/
def openingLog (options : Options) (environment : Environment) (filter : Filter) : List String :=
  logLines filter [cacheNotice (options.cacheAt environment)]

/-- Makes ready for a refresh with options that have been read. -/
def Invocation.prepare (invocation : Invocation) (options : Options) (filter : Filter) :
    Opening :=
  let log := openingLog options invocation.environment filter
  if !isReadableClock invocation.clock then .ended panicCode [] log
  else if !invocation.environment.usedToken.isValid then
    .ended 1 [] (log ++ ["Error: Other(\"" ++ Problem.badToken.message ++ "\")"])
  else
    match invocation.clientFault with
    | some report => .ended 1 [] (log ++ ["Error: Api(" ++ report ++ ")"])
    | none => .ready options filter

/-- Reads the log filter and then the words. -/
def Invocation.opening (invocation : Invocation) : Opening :=
  match Filter.parse invocation.environment.logFilter with
  | .error _ => .ended panicCode [] []
  | .ok filter =>
    match parse invocation.words with
    | .ok options => invocation.prepare options filter
    | .error .helpRequested => .told invocation.output helpText
    | .error .versionRequested => .told invocation.output versionText
    | .error _ => .ended 2 [] []

/-! ## The refresh -/

/-- What is reported of the end of a refresh.  A panic leaves nobody to report it. -/
def resultNotices : Except Setback Freshening → List Notice
  | .ok .cached => [.renderedCached]
  | .ok .fetched => [.renderedFetched]
  | .error (.problem problem) => [.refreshFailed problem]
  | .error (.panic _) => []

def resultCode : Except Setback Freshening → Nat
  | .error (.panic _) => panicCode
  | .ok _ | .error (.problem _) => 0

/-- The refresh of a run. -/
def Options.refreshed (options : Options) (invocation : Invocation) (files : Storage.FileSystem) :
    Refreshed Machine :=
  (options.refresher invocation).refresh invocation.clock invocation.reply .unknown ⟨files, []⟩

/-- Refreshes with what has been made ready. -/
def execute (options : Options) (filter : Filter) (invocation : Invocation)
    (files : Storage.FileSystem) : Run :=
  let refreshed := options.refreshed invocation files
  { code := resultCode refreshed.result
    output := refreshed.state.output
    log := openingLog options invocation.environment filter ++
      logLines filter (refreshed.notices ++ resultNotices refreshed.result)
    files := refreshed.state.files
    requests := refreshed.requests }

/-- Runs the program. -/
def run (invocation : Invocation) (files : Storage.FileSystem) : Run :=
  match invocation.opening with
  | .ended code output log => { code, output, log, files, requests := [] }
  | .ready options filter => execute options filter invocation files

end CommandLine
end RepoFeed
