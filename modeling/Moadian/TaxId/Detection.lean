import Moadian.TaxId
import Moadian.TaxId.CheckSum

/-! The Verhoeff digit multiplies through the dihedral group of ten elements, each
digit permuted by its place; so it sees one changed digit and two swapped ones. -/
namespace Moadian.Verhoeff

def place (i digit : Nat) : Nat := at_ p (i % 8) digit

theorem foldRun (start : Nat) (digits : List Nat) : fold start digits = CheckSum.run (at_ d) place start 0 digits := by
  have all : ∀ (i c : Nat), (digits.zipIdx i).foldl (fun c x => at_ d c (at_ p (x.2 % 8) x.1)) c =
      CheckSum.run (at_ d) place i c digits := by
    induction digits with
    | nil => exact fun _ _ => rfl
    | cons digit digits ih => exact fun i c => ih (i + 1) (at_ d c (at_ p (i % 8) digit))
  exact all start 0

theorem placeSucc (i digit : Nat) : place (i + 1) digit = place (i % 8 + 1) digit := by
  rw [place,place,Nat.add_mod,Nat.add_mod (i % 8),Nat.mod_mod]

theorem tablesTell : CheckSum.Tells (· < 10) (· < 10) (at_ d) place where
  closed := by
    have bounded : ∀ s < 10, ∀ t < 10, at_ d s t < 10 := by decide +kernel
    exact fun s t hs => bounded s hs t
  read := by
    have bounded : ∀ i < 8, ∀ a < 10, at_ p i a < 10 := by decide +kernel
    exact fun i a digit => bounded (i % 8) (Nat.mod_lt i (by decide)) a digit
  right := by
    have apart : ∀ s < 10, ∀ t < 10, ∀ u < 10, at_ d s u = at_ d t u → s = t := by decide +kernel
    exact fun s t u hs ht hu => apart s hs t ht u hu
  left := by
    have apart : ∀ s < 10, ∀ t < 10, ∀ u < 10, at_ d s t = at_ d s u → t = u := by decide +kernel
    exact fun s t u hs ht hu => apart s hs t ht u hu
  symbol := by
    have apart : ∀ i < 8, ∀ a < 10, ∀ b < 10, at_ p i a = at_ p i b → a = b := by decide +kernel
    exact fun i a b ha hb => apart (i % 8) (Nat.mod_lt i (by decide)) a ha b hb
  swap := by
    have apart : ∀ i < 8, ∀ s < 10, ∀ a < 10, ∀ b < 10,
        at_ d (at_ d s (place i a)) (place (i + 1) b) = at_ d (at_ d s (place i b)) (place (i + 1) a) → a = b := by
      decide +kernel
    have period : ∀ i digit, place i digit = place (i % 8) digit := fun i digit => by rw [place,place,Nat.mod_mod]
    intro i s a b hs ha hb same
    rw [period i a,period i b,placeSucc i a,placeSucc i b] at same
    exact apart (i % 8) (Nat.mod_lt i (by decide)) s hs a ha b hb same

theorem neutral : ∀ s < 10, at_ d s 0 = s ∧ at_ d 0 s = s := by decide +kernel

theorem associative : ∀ s < 10, ∀ t < 10, ∀ u < 10, at_ d (at_ d s t) u = at_ d s (at_ d t u) := by decide +kernel

theorem inverse : ∀ s < 10, inv.getD s 0 < 10 ∧ ∀ t < 10, at_ d t s = 0 ↔ t = inv.getD s 0 := by decide +kernel

theorem placeFirst : ∀ a < 10, at_ d 0 (place 0 a) = a := by decide +kernel

/-! A text of ASCII digits, from its last. -/

def digitAt (c : Char) : Nat := c.toNat - 48

def reading (number : List Char) : List Nat := number.reverse.map digitAt

theorem digitAtRange {c : Char} (h : TaxId.isDigit c = true) : digitAt c < 10 ∧ c = Nat.digitChar (digitAt c) := by
  simp only [TaxId.isDigit,Bool.and_eq_true,decide_eq_true_eq,TaxId.charLe] at h
  have range : 48 ≤ c.toNat ∧ c.toNat ≤ 57 := h
  have small : digitAt c < 10 := by unfold digitAt; omega
  have back : ∀ k < 10, (Nat.digitChar k).toNat = k + 48 := by decide
  refine ⟨small,Char.toNat_inj.mp ?_⟩
  rw [back _ small,digitAt]
  omega

theorem digitAtInjective {a b : Char} (first : TaxId.isDigit a = true) (second : TaxId.isDigit b = true)
    (same : digitAt a = digitAt b) : a = b := by
  rw [(digitAtRange first).2,(digitAtRange second).2,same]

theorem readingDigits {number : List Char} (digits : ∀ c ∈ number, TaxId.isDigit c = true) :
    ∀ a ∈ reading number, a < 10 := by
  intro a member
  obtain ⟨c,own,rfl⟩ := List.mem_map.mp member
  exact (digitAtRange (digits c (List.mem_reverse.mp own))).1

theorem reversedOf {number : List Char} (some_ : number ≠ []) (digits : ∀ c ∈ number, TaxId.isDigit c = true) :
    reversedDigits number = .ok (reading number) := by
  have none_ : number.find? (fun c => !('0' ≤ c && c ≤ '9')) = none := by
    refine List.find?_eq_none.mpr (fun c member => ?_)
    have digit := digits c member
    unfold TaxId.isDigit at digit
    simp [digit]
  rw [reversedDigits,if_neg (by simpa using some_)]
  simp only [none_]
  rfl

theorem reversedDigitsOk {number : List Char} {read : List Nat} (h : reversedDigits number = .ok read) :
    number ≠ [] ∧ ∀ c ∈ number, TaxId.isDigit c = true := by
  unfold reversedDigits at h
  split at h
  · cases h
  · rename_i some_
    split at h
    · cases h
    · rename_i none_
      refine ⟨by simpa using some_,fun c member => ?_⟩
      have digit := List.find?_eq_none.mp none_ c member
      simpa [TaxId.isDigit] using digit

section Digits
variable {number : List Char} (some_ : number ≠ []) (digits : ∀ c ∈ number, TaxId.isDigit c = true)
include some_ digits

theorem checkDigitOf : checkDigit number = .ok (inv.getD (fold 1 (reading number)) 0) := by
  rw [checkDigit,reversedOf some_ digits]
  rfl

theorem validateOf : validate number = .ok (fold 0 (reading number) == 0) := by
  rw [validate,reversedOf some_ digits]
  rfl

end Digits

theorem validDigits {number : List Char} (h : validate number = .ok true) :
    number ≠ [] ∧ ∀ c ∈ number, TaxId.isDigit c = true := by
  unfold validate at h
  cases read : reversedDigits number with
  | error e => rw [read] at h; cases h
  | ok digits => exact reversedDigitsOk read

theorem foldSmall (start : Nat) {number : List Char} (digits : ∀ c ∈ number, TaxId.isDigit c = true) :
    fold start (reading number) < 10 := by
  rw [foldRun]
  exact CheckSum.runClosed tablesTell (by decide : 0 < 10) (readingDigits digits)

-- The check digit stands at place 0, where it is multiplied on unpermuted.
theorem foldCheck {number : List Char} (digits : ∀ c ∈ number, TaxId.isDigit c = true) {c : Char}
    (digit : TaxId.isDigit c = true) :
    fold 0 (reading (number ++ [c])) = at_ d (digitAt c) (fold 1 (reading number)) := by
  have own := (digitAtRange digit).1
  have read : reading (number ++ [c]) = digitAt c :: reading number := by
    rw [reading,List.reverse_append]
    rfl
  have split := CheckSum.runFrom (i := 1) (fun s h => (neutral s h).1) (by decide : 0 < 10)
    (fun s t u hs ht hu => associative s hs t ht u hu) (fun s h => (neutral s h).2) tablesTell.read tablesTell.closed
    own (readingDigits digits)
  rw [read,foldRun,foldRun,CheckSum.run,placeFirst _ own]
  exact split.1

theorem checked {number : List Char} (some_ : number ≠ []) (digits : ∀ c ∈ number, TaxId.isDigit c = true) {c : Char}
    (digit : TaxId.isDigit c = true) :
    validate (number ++ [c]) = .ok true ↔ checkDigit number = .ok (digitAt c) := by
  have all : ∀ b ∈ number ++ [c], TaxId.isDigit b = true := by
    intro b member
    rcases List.mem_append.mp member with own | last
    · exact digits b own
    · exact List.mem_singleton.mp last ▸ digit
  have row := (inverse _ (foldSmall 1 digits)).2 (digitAt c) (digitAtRange digit).1
  rw [validateOf (List.append_ne_nil_of_right_ne_nil _ (List.cons_ne_nil c [])) all,checkDigitOf some_ digits,
    Except.ok.injEq,Except.ok.injEq,beq_iff_eq,foldCheck digits digit,row]
  exact eq_comm

theorem readingSplit (before after : List Char) (c : Char) :
    reading (before ++ c :: after) = reading after ++ digitAt c :: reading before := by
  simp [reading]

section Slip
variable {before after : List Char}

theorem readingSmall (left : ∀ c ∈ before, TaxId.isDigit c = true) (right : ∀ c ∈ after, TaxId.isDigit c = true) :
    ∀ n ∈ reading after ++ reading before, n < 10 := by
  intro n member
  rcases List.mem_append.mp member with own | own
  · exact readingDigits right n own
  · exact readingDigits left n own

-- Two accepted texts read to the same sum, so one that reads to another is rejected.
theorem rejectedOf {number other : List Char} (valid : validate number = .ok true) (some_ : other ≠ [])
    (digits : ∀ c ∈ other, TaxId.isDigit c = true) (apart : fold 0 (reading number) ≠ fold 0 (reading other)) :
    validate other = .ok false := by
  obtain ⟨some',digits'⟩ := validDigits valid
  rw [validateOf some' digits',Except.ok.injEq,beq_iff_eq] at valid
  rw [validateOf some_ digits,Except.ok.injEq,beq_eq_false_iff_ne]
  exact fun zero => apart (valid.trans zero.symm)

theorem changedRejected {a b : Char} (valid : validate (before ++ a :: after) = .ok true)
    (digit : TaxId.isDigit b = true) (other : a ≠ b) : validate (before ++ b :: after) = .ok false := by
  obtain ⟨_,digits⟩ := validDigits valid
  have left : ∀ c ∈ before, TaxId.isDigit c = true := fun c h => digits c (by simp [h])
  have right : ∀ c ∈ after, TaxId.isDigit c = true := fun c h => digits c (by simp [h])
  have own := digits a (by simp)
  have changed : ∀ c ∈ before ++ b :: after, TaxId.isDigit c = true := by
    intro c member
    rcases List.mem_append.mp member with here | later
    · exact left c here
    · rcases List.mem_cons.mp later with rfl | later
      · exact digit
      · exact right c later
  refine rejectedOf valid (by simp) changed (fun same => ?_)
  rw [readingSplit,readingSplit,foldRun,foldRun] at same
  have equal := CheckSum.oneChanged tablesTell (by decide : 0 < 10) (readingSmall left right) (digitAtRange own).1
    (digitAtRange digit).1 same
  exact other (digitAtInjective own digit equal)

theorem swappedRejected {a b : Char} (valid : validate (before ++ a :: b :: after) = .ok true)
    (other : a ≠ b) : validate (before ++ b :: a :: after) = .ok false := by
  obtain ⟨_,digits⟩ := validDigits valid
  have left : ∀ c ∈ before, TaxId.isDigit c = true := fun c h => digits c (by simp [h])
  have right : ∀ c ∈ after, TaxId.isDigit c = true := fun c h => digits c (by simp [h])
  have first := digits a (by simp)
  have second := digits b (by simp)
  have swapped : ∀ c ∈ before ++ b :: a :: after, TaxId.isDigit c = true := by
    intro c member
    refine digits c ?_
    simp only [List.mem_append,List.mem_cons] at member ⊢
    tauto
  have read : ∀ x y : Char, reading (before ++ x :: y :: after) =
      reading after ++ digitAt y :: digitAt x :: reading before := fun x y => by simp [reading]
  refine rejectedOf valid (by simp) swapped (fun same => ?_)
  rw [read,read,foldRun,foldRun] at same
  have equal := CheckSum.twoSwapped tablesTell (by decide : 0 < 10) (readingSmall left right) (digitAtRange second).1
    (digitAtRange first).1 same
  exact other (digitAtInjective second first equal).symm

end Slip

theorem slipRejected {number other : List Char} (valid : validate number = .ok true)
    (slip : CheckSum.Slip (TaxId.isDigit · = true) number other) : validate other = .ok false := by
  cases slip with
  | changed digit apart => exact changedRejected valid digit apart
  | swapped apart => exact swappedRejected valid apart

theorem errorsDetected :
    (∀ number : List Char, number ≠ [] → (∀ c ∈ number, TaxId.isDigit c = true) →
      ∃ digit < 10, checkDigit number = .ok digit ∧
        ∀ e < 10, validate (number ++ TaxId.decimal e) = .ok true ↔ e = digit) ∧
      ∀ (before after : List Char) (a b : Char),
        (validate (before ++ a :: after) = .ok true → TaxId.isDigit b = true → a ≠ b →
          validate (before ++ b :: after) = .ok false) ∧
          (validate (before ++ a :: b :: after) = .ok true → a ≠ b →
            validate (before ++ b :: a :: after) = .ok false) := by
  refine ⟨fun number some_ digits => ?_,fun before after a b => ⟨changedRejected,swappedRejected⟩⟩
  have row := inverse _ (foldSmall 1 digits)
  refine ⟨_,row.1,checkDigitOf some_ digits,fun e small => ?_⟩
  have text : ∀ k < 10, TaxId.decimal k = [Nat.digitChar k] ∧ TaxId.isDigit (Nat.digitChar k) = true ∧
      digitAt (Nat.digitChar k) = k := by decide
  obtain ⟨one,digit,back⟩ := text e small
  rw [one,checked some_ digits digit,back,checkDigitOf some_ digits,Except.ok.injEq]
  exact eq_comm

theorem errorsDetectedIn : (∃ digit < 10, checkDigit "236".toList = .ok digit ∧
      ∀ e < 10, validate ("236".toList ++ TaxId.decimal e) = .ok true ↔ e = digit) ∧
    validate "2463".toList = .ok false ∧ validate "3263".toList = .ok false :=
  ⟨errorsDetected.1 "236".toList (by decide) (List.all_eq_true.mp (by decide)),
    (errorsDetected.2 ['2'] ['6','3'] '3' '4').1 rfl (by decide) (by decide),
    (errorsDetected.2 [] ['6','3'] '2' '3').2 rfl (by decide)⟩

end Moadian.Verhoeff
