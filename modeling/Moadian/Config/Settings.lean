import Moadian.Codec.Split
import Moadian.Config.Profile

/-! The paths the settings give: where the serials are counted, and which certificate
and key an environment signs with. -/
namespace Moadian.Config
open Codec (split splitNever)

structure Path where
  root : String
  parts : List String
  deriving DecidableEq, Repr

def partsOf (text : String) : List String :=
  ((split '/' text.toList).map String.ofList).filter (fun part => part ≠ "" && part ≠ ".")

-- `path / text`, where the text is no absolute path.
def Path.child (path : Path) (text : String) : Path := { path with parts := path.parts ++ partsOf text }

structure Settings where
  instanceDir : Path
  certificatePath : Option Path := none
  privateKeyPath : Option Path := none
  sandboxCertificatePath : Option Path := none
  sandboxPrivateKeyPath : Option Path := none
  productionCertificatePath : Option Path := none
  productionPrivateKeyPath : Option Path := none
  deriving DecidableEq, Repr

def Settings.serialCounterPath (settings : Settings) (memoryId : String) : Path :=
  settings.instanceDir.child ("serial-" ++ memoryId)

theorem partsOfName {text : String} (inside : '/' ∉ text.toList) (some_ : text ≠ "") (named : text ≠ ".") :
    partsOf text = [text] := by
  simp [partsOf,splitNever inside,some_,named]

theorem childName {path : Path} {a b : String} (insideA : '/' ∉ a.toList) (insideB : '/' ∉ b.toList)
    (longA : 1 < a.length) (longB : 1 < b.length) : path.child a = path.child b ↔ a = b := by
  have name : ∀ {text : String}, '/' ∉ text.toList → 1 < text.length → partsOf text = [text] := by
    intro text inside long
    apply partsOfName inside
    · intro empty
      simp [empty] at long
    · intro dot
      rw [dot] at long
      exact absurd long (by decide)
  constructor
  · intro same
    have parts := congrArg Path.parts same
    simp only [Path.child,name insideA longA,name insideB longB,List.append_cancel_left_eq] at parts
    exact List.singleton_inj.mp parts
  · intro same
    rw [same]

end Moadian.Config
