import ApiForge.Text.Quoted
import ApiForge.Text.Utf8

/-!
# File faults

Why a change of the disk could not be made.
-/

namespace ApiForge

/-- Why a place on the disk cannot be used as wanted. -/
inductive PlaceFault where
  | absent
  | present
  | notFolder
  | isFolder
  | tooLong
  | notEmpty
  deriving DecidableEq, Repr

namespace PlaceFault

/-- The number that the system gives the fault. -/
def number : PlaceFault → Nat
  | .absent => 2
  | .present => 17
  | .notFolder => 20
  | .isFolder => 21
  | .tooLong => 36
  | .notEmpty => 39

def phrase : PlaceFault → Text
  | .absent => "No such file or directory"
  | .present => "File exists"
  | .notFolder => "Not a directory"
  | .isFolder => "Is a directory"
  | .tooLong => "File name too long"
  | .notEmpty => "Directory not empty"

def message (fault : PlaceFault) : Text :=
  "[Errno " ++ Text.ofNat fault.number ++ "] " ++ fault.phrase

end PlaceFault

inductive FileFault where
  | place (cause : PlaceFault) (path : Text)
  | move (cause : PlaceFault) (source target : Text)
  | unencodable (stretch : Utf8.Unencodable)
  | other (reason : Text)
  | unforeseen
  deriving DecidableEq, Repr

namespace FileFault

/-- The stretch that has no bytes. -/
def stretchMessage (stretch : Utf8.Unencodable) : Text :=
  let place :=
    if stretch.count = 1 then
      "character " ++ Text.quoted [stretch.letter] ++ " in position " ++ Text.ofNat stretch.position
    else
      "characters in position " ++ Text.ofNat stretch.position ++ "-" ++
        Text.ofNat (stretch.position + stretch.count - 1)
  "'utf-8' codec can't encode " ++ place ++ ": surrogates not allowed"

def message : FileFault → Text
  | .place cause path => cause.message ++ ": " ++ Text.quoted path
  | .move cause source target =>
      cause.message ++ ": " ++ Text.quoted source ++ " -> " ++ Text.quoted target
  | .unencodable stretch => stretchMessage stretch
  | .other reason => reason
  | .unforeseen => []

/-- The fault says that something on the way is absent. -/
def isAbsence : FileFault → Bool
  | .place .absent _ => true
  | _ => false

end FileFault

end ApiForge
