import RepoFeed.Text.Blank

/-
Links to the pages of a repository.
-/

namespace RepoFeed

/-- A repository by its owner and its name. -/
structure Repository where
  owner : String
  name : String
deriving DecidableEq, Repr

namespace Markup

def site : String := "https://github.com"

def userUrl (login : String) : String :=
  site ++ "/" ++ login

def repositoryUrl (repository : Repository) : String :=
  site ++ "/" ++ repository.owner ++ "/" ++ repository.name

def commitUrl (repository : Repository) (sha : String) : String :=
  repositoryUrl repository ++ "/commit/" ++ sha

def treeUrl (repository : Repository) (branch : String) : String :=
  repositoryUrl repository ++ "/tree/" ++ branch

def anchor (url label : String) : String :=
  "<a href=\"" ++ url ++ "\">" ++ label ++ "</a>"

/-- A link to the tree of a branch. -/
def branchLink (repository : Repository) (branch : String) : String :=
  anchor (treeUrl repository branch) branch

/-- How the refs of branches begin. -/
def branchRefs : String := "refs/heads/"

/-- A ref as it is shown: a branch as a link, any other ref as it is. -/
def refLabel (repository : Repository) (ref : String) : String :=
  match Text.after? branchRefs.toList ref.toList with
  | some branch => branchLink repository (String.ofList branch)
  | none => ref

end Markup
end RepoFeed
