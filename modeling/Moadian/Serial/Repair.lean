import Moadian.Serial.Repeat

/-! The tool beside live counters. It compares under the lock and writes without it. -/
namespace Moadian.Serial
open Resumption

def Rising (file : Option Content) (ps : List Participant) (moves : Schedule machine) : Prop :=
  ∀ xs m ys, moves = xs ++ m :: ys → Rises (ran file ps xs).world.file (ran file ps (xs ++ [m])).world.file

def Distinct (q : System) : Prop := ∀ i j m n, i ≠ j → Returned q i m → Returned q j n → m ≠ n

variable {ps : List Participant} {q : System}

theorem noBlackout (calm : .blackout ∉ ps) (i : Nat) : cast ps i ≠ .blackout := by
  intro own
  rw [cast,List.getD_eq_getElem?_getD] at own
  cases found : ps[i]? with
  | none => rw [found] at own; cases own
  | some p => rw [found] at own; cases own; exact calm (List.mem_of_getElem? found)

theorem risesMove (h : Sound ps q) (calm : .blackout ∉ ps) {i : Nat} {orc : Oracle machine}
    (fitting : Fitting ps q i orc) : Rises q.world.file (q.step i orc).world.file := by
  obtain same | ⟨t,o,k,a,w',found,at_,answered,next⟩ := Pool.stepCases q i orc
  · rw [same]; exact risesSame _
  · rw [next]; exact risesStep h fitting (noBlackout calm i) found at_ answered

theorem distinctSerials (h : Sound ps q) : Distinct q := by
  intro i j m n other left right
  rcases serialsApart h other left right with ⟨_,below⟩ | ⟨_,above⟩
  · omega
  · omega

theorem repairedSafely (file : Option Content) (ps : List Participant) (moves : Schedule machine)
    (calm : .blackout ∉ ps) (met : Pool.Throughout (Fitting ps) (launch file ps) moves) :
    Rising file ps moves ∧ ∀ xs ys, moves = xs ++ ys → Distinct (ran file ps xs) := by
  constructor
  · rintro xs m ys rfl
    obtain ⟨early,late⟩ := Pool.throughoutAppend met
    have sound : Sound ps (ran file ps xs) := soundRun early
    have last : ran file ps (xs ++ [m]) = (ran file ps xs).step m.1 m.2 := by
      rw [ran,Pool.runAppend]
      rfl
    rw [last]
    exact risesMove sound calm late.1
  · rintro xs ys rfl
    exact distinctSerials (soundRun (Pool.throughoutAppend met).1)

/-! `--set 5` on a new file. A draw takes 1 after the tool has read and before it writes. -/

def raised : List Participant := [.tool 0 { memoryId := "A11216", set := some 5 },.draw 1 0]

theorem repairedSafelyOnce :
    Rising none raised (turnsOf [(0,9),(1,16),(0,8)]) ∧
      ∀ xs ys, turnsOf [(0,9),(1,16),(0,8)] = xs ++ ys → Distinct (ran none raised xs) :=
  repairedSafely none raised _ (by simp [raised]) (by decide +kernel)

/-! `--set 1` on a new file. Two draws take 1 and 2 after the tool has read; it writes 1,
and the third draw takes 2 again. -/

def lowered : List Participant :=
  [.tool 0 { memoryId := "A11216", set := some 1 },.draw 1 0,.draw 2 0,.draw 3 0]

def loweredTurns : Schedule machine := turnsOf [(0,9),(1,16),(2,16),(0,8),(3,16)]

theorem serialReissued : ¬ Rising none lowered loweredTurns ∧ ¬ Distinct (ran none lowered loweredTurns) := by
  constructor
  · intro rising
    have step := rising (turnsOf [(0,9),(1,16),(2,16),(0,4)]) (0,fine) (turnsOf [(0,3),(3,16)]) rfl
    obtain ⟨v,now,above⟩ := step 2 (by decide +kernel)
    have one : stored (ran none lowered (turnsOf [(0,9),(1,16),(2,16),(0,4)] ++ [(0,fine)])).world.file = some 1 := by
      decide +kernel
    cases one.symm.trans now
    omega
  · intro distinct
    exact distinct 2 3 2 2 (by decide) (by decide +kernel) (by decide +kernel) rfl

end Moadian.Serial
