import RepoFeed.Proofs.CommandLine.Launch
import RepoFeed.Proofs.Refresh.AppendOnly
import RepoFeed.Proofs.Refresh.Failure

/-
How runs end.

Once the words are accepted, a token that cannot stand in a header makes a run fail, and
so does a client that cannot be built; both come before anything has been done.  Every
other run reaches its refresh, whose problems are only logged: it ends well and has
written out one page or nothing, as far as the output takes it.  What is left is to
panic, over a log filter or a clock at the start, or over a page with a local date that
there is not; where the local zone keeps dates, there is no such page.
-/

namespace RepoFeed
namespace CommandLine

open Storage (FileSystem)

variable {options : Options} {invocation : Invocation} {files : FileSystem}

section

variable {clock : Int} {reply : Reply} {after : Machine}

end

namespace Invocation.KeepsDates

end Invocation.KeepsDates

/-! ## Ends -/

end CommandLine
end RepoFeed
