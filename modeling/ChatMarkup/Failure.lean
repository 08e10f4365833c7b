/-!
# Failures

What can go wrong in a conversion, as its callers see it: the kind of failure, the wording, and the
failure behind it if there is one. Each kind has its exit status; a failed record takes the status
of what failed in it.
-/
namespace ChatMarkup

/-- The kinds of failures. The first ones are this library's own; the others come from values and
files that it was given. -/
inductive FailureKind where
  | general
  | validation (parameter : Option String)
  | wrongOptions
  | parsing (stage : Option String)
  | rendering (stage : Option String)
  | dependency
  | record (index : Option Int)
  | setting
  | badValue
  | badDecoding
  | badType
  | badIndex
  | noMember
  | overflow
  | missingModule
  | file
  | other
deriving DecidableEq, Repr

inductive Failure where
  | because (kind : FailureKind) (message : String) (cause : Option Failure)
deriving Repr

namespace Failure

def plain (kind : FailureKind) (message : String) : Failure := .because kind message none

def kind : Failure → FailureKind
  | .because kind _ _ => kind

def message : Failure → String
  | .because _ message _ => message

def cause : Failure → Option Failure
  | .because _ _ cause => cause

/-- A failure as it is reported: a failed record is named by its position. -/
def report : Failure → String
  | .because (.record (some index)) message _ => s!"Record {index}: {message}"
  | .because _ message _ => message

/-- The exit status of a kind of failure by itself. -/
def kindStatus : FailureKind → Nat
  | .dependency => 2
  | .missingModule => 2
  | .validation _ => 3
  | .wrongOptions => 3
  | .setting => 3
  | .file => 4
  | .parsing _ => 6
  | .rendering _ => 7
  | _ => 1

def exitStatus : Failure → Nat
  | .because (.record _) _ (some cause) => exitStatus cause
  | .because kind _ _ => kindStatus kind

end Failure

def wrongOptionsMessage (user expected received : String) : String :=
  s!"{user} expected options of type '{expected}' but received '{received}'."

structure Requirement where
  name : String
  versions : String
deriving DecidableEq, Repr

structure Mismatch where
  name : String
  versions : String
  installed : String
deriving DecidableEq, Repr

/-- A requirement as it stands in a list of packages. -/
def Requirement.quoted (r : Requirement) : String := s!"'{r.name}{r.versions}'"

def Requirement.argument (r : Requirement) : String :=
  if r.versions.isEmpty then r.name else s!"\"{r.name}{r.versions}\""

def Mismatch.quoted (m : Mismatch) : String :=
  s!"'{m.name}' (requires {m.versions}, but {m.installed} is installed)"

/-- The wording for missing and mismatched packages, with what would install them. -/
def dependencyMessage (user : String) (missing : List Requirement) (mismatches : List Mismatch)
    (install : String) : String :=
  let needs := if missing.isEmpty then [] else
    [s!"{user} requires the following packages: " ++ ", ".intercalate (missing.map (·.quoted))]
  let differs := if mismatches.isEmpty then [] else
    [s!"{user} has version mismatches: " ++ ", ".intercalate (mismatches.map (·.quoted))]
  let all := missing ++ mismatches.map fun m => ⟨m.name, m.versions⟩
  let advice :=
    if !install.isEmpty then s!"\nInstall with: {install}"
    else if all.isEmpty then ""
    else "\nInstall with: pip install --upgrade " ++ " ".intercalate (all.map (·.argument))
  "\n".intercalate (needs ++ differs) ++ advice

end ChatMarkup
