import Mishap.Record

/-!
Flags: the policies an operation can be asked for. An operation takes only the flags it knows, and no two that
contradict each other.
-/

namespace Mishap

inductive Flag
  | preferPreviousData
  | replacePreviousData
  | errorOnConflict
  | missingDataAsZero
  | missingDataIsError
  | insistOnConsistency
  deriving DecidableEq, Repr

namespace Flag

def name : Flag → String
  | preferPreviousData => "PreferPreviousData"
  | replacePreviousData => "ReplacePreviousData"
  | errorOnConflict => "ErrorOnConflict"
  | missingDataAsZero => "MissingDataAsZero"
  | missingDataIsError => "MissingDataIsError"
  | insistOnConsistency => "PanicOnInconsistency"

/-- The flags of the operations that annotate a fault. -/
def forMerging : List Flag := [preferPreviousData, replacePreviousData, errorOnConflict]

/-- The flags of projections. -/
def forProjection : List Flag := [missingDataAsZero, missingDataIsError, insistOnConsistency]

/-- The flags that say what becomes of missing data. -/
def forMissing : List Flag := [missingDataAsZero, missingDataIsError]

def all : List Flag := forMerging ++ forProjection

def ofName? (name : String) : Option Flag := all.find? fun flag => flag.name == name

end Flag

/-- What is wrong with the flags of an operation. -/
inductive FlagFault
  | notAllowed (flag : Flag) (allowed : List Flag)
  | contradiction (earlier later : Flag)
  deriving DecidableEq, Repr

def FlagFault.message : FlagFault → String
  | notAllowed flag allowed =>
    "flag " ++ flag.name ++ " is not recognized here (accepted: [" ++
      ", ".intercalate (allowed.map Flag.name) ++ "])"
  | contradiction earlier later =>
    "flags " ++ earlier.name ++ " and " ++ later.name ++ " contradict each other"

namespace Flag

def checkAllowed (allowed flags : List Flag) : Except FlagFault Unit :=
  match flags.find? fun flag => !allowed.contains flag with
  | some flag => .error (.notAllowed flag allowed)
  | none => .ok ()

/-- The one flag that a list of flags of one group agrees on; a repeated flag is no contradiction. -/
def agreed : List Flag → Except FlagFault (Option Flag)
  | [] => .ok none
  | flag :: rest =>
    match rest.find? (· ≠ flag) with
    | some other => .error (.contradiction flag other)
    | none => .ok (some flag)

/-- The policy of merging that the flags ask for; new data wins if they ask for none. -/
def mergePolicy (flags : List Flag) : Except FlagFault Params.MergePolicy := do
  checkAllowed forMerging flags
  match ← agreed flags with
  | some .preferPreviousData => return .keepPrevious
  | some .errorOnConflict => return .errorOnConflict
  | _ => return .replace

/-- What a projection does with missing data, and whether it takes a failure for a usage error. -/
structure ProjectOptions where
  missing : MissingData
  strict : Bool
  deriving DecidableEq, Repr

/-- The options of a projection; missing data is an error unless the flags say otherwise. -/
def projectOptions (flags : List Flag) : Except FlagFault ProjectOptions := do
  checkAllowed forProjection flags
  let missing := match ← agreed (flags.filter forMissing.contains) with
    | some .missingDataAsZero => .asZero
    | _ => .isError
  return ⟨missing, flags.contains .insistOnConsistency⟩

end Flag

end Mishap
