import Moadian.Client.Sheets
import Moadian.Mock.Submissions

/-! A `uuid4` as it is written passes for a uuid. -/
namespace Moadian.Mock
open Codec Crypto Wire

section Uuid
variable {text : List Char}

theorem withoutNone (c : Char) (mark : List Char) {text : List Char} (none_ : c ∉ text) : without (c :: mark) 0 text = text := by
  induction text with
  | nil => rfl
  | cons d rest ih =>
    have other : (c :: mark).isPrefixOf (d :: rest) = false := by
      have differs : c ≠ d := fun same => none_ (same ▸ List.mem_cons_self)
      simp [List.isPrefixOf,differs]
    rw [without,other,if_neg Bool.false_ne_true,ih (fun member => none_ (List.mem_cons_of_mem d member))]

theorem hexFacts16 : ∀ d < 16, asciiOf d.digitChar = d.digitChar ∧ cSpace d.digitChar = false ∧ hexDigit d.digitChar = some d ∧
    brace d.digitChar = false ∧ (d.digitChar ≠ '_' ∧ d.digitChar ≠ '+' ∧ d.digitChar ≠ '-' ∧ d.digitChar ≠ 'x' ∧ d.digitChar ≠ 'X') ∧
    d.digitChar ≠ 'u' := by decide

theorem hexFromSmall (all : ∀ c ∈ text, ∃ d < 16, c = d.digitChar) (n : Nat) :
    ∃ m, hexFrom n text = some m ∧ m < (n + 1) * 16 ^ text.length := by
  induction text generalizing n with
  | nil => exact ⟨n,rfl,by simp⟩
  | cons c rest ih =>
    obtain ⟨d,small,rfl⟩ := all c List.mem_cons_self
    obtain ⟨m,read,bounded⟩ := ih (fun e member => all e (List.mem_cons_of_mem _ member)) (16 * n + d)
    have facts := hexFacts16 d small
    refine ⟨m,?_,?_⟩
    · rw [hexFrom]
      · rw [facts.2.2.1]
        exact read
      · intro e tail same
        exact absurd same facts.2.2.2.2.1.1
    · have wide : (16 * n + d + 1) * 16 ^ rest.length ≤ (n + 1) * 16 * 16 ^ rest.length := Nat.mul_le_mul_right _ (by omega)
      rw [List.length_cons,Nat.pow_succ,Nat.mul_comm (16 ^ rest.length) 16,← Nat.mul_assoc]
      omega

theorem int16Small (some_ : text ≠ []) (all : ∀ c ∈ text, ∃ d < 16, c = d.digitChar) :
    ∃ n : Nat, int16 text = some (n : Int) ∧ n < 16 ^ text.length := by
  have plain : ∀ c ∈ text, asciiOf c = c ∧ cSpace c = false := by
    intro c member
    obtain ⟨d,small,rfl⟩ := all c member
    exact ⟨(hexFacts16 d small).1,(hexFacts16 d small).2.1⟩
  have stays : ∀ xs : List Char, (∀ c ∈ xs, cSpace c = false) → xs.dropWhile cSpace = xs := by
    intro xs solid
    cases xs with
    | nil => rfl
    | cons c rest => exact List.dropWhile_cons_of_neg (by simp [solid c List.mem_cons_self])
  have ascii : text.map asciiOf = text := by
    rw [List.map_congr_left (fun c member => (plain c member).1),List.map_id']
  have whole : trimmed text = text := by
    rw [trimmed,stays text (fun c member => (plain c member).2),
      stays _ (fun c member => (plain c (List.mem_reverse.mp member)).2),List.reverse_reverse]
  obtain ⟨c,rest,rfl⟩ := List.exists_cons_of_ne_nil some_
  obtain ⟨d,small,rfl⟩ := all c List.mem_cons_self
  have facts := hexFacts16 d small
  obtain ⟨n,read,bounded⟩ := hexFromSmall (fun e member => all e (List.mem_cons_of_mem _ member)) d
  refine ⟨n,?_,?_⟩
  · have unsigned : natural16 (d.digitChar :: rest) = some n := by
      have bare : unmarked (d.digitChar :: rest) = d.digitChar :: rest := by
        unfold unmarked
        split
        · rename_i e tail same
          obtain ⟨_,rfl⟩ := List.cons.inj same
          obtain ⟨k,tiny,rfl⟩ := all e (by simp)
          have marks := (hexFacts16 k tiny).2.2.2.2.1.2.2.2
          rw [if_neg (by simp [marks.1,marks.2]),same]
        · rfl
      rw [natural16,bare,hexAll,facts.2.2.1,Option.bind_some,read]
    rw [int16,ascii,whole]
    split
    · rename_i tail same
      exact absurd (List.cons.inj same).1 facts.2.2.2.2.1.2.1
    · rename_i tail same
      exact absurd (List.cons.inj same).1 facts.2.2.2.2.1.2.2.1
    · rw [unsigned]
      rfl
  · rw [List.length_cons,Nat.pow_succ,Nat.mul_comm]
    exact Nat.lt_of_lt_of_le bounded (Nat.mul_le_mul_right _ (by omega))

end Uuid

theorem uuidIsUuid (bits : BitVec 128) : isUuid (uuidText bits) = true := by
  have chars := uuidChars bits
  have noU : 'u' ∉ (uuidText bits).toList := by
    intro member
    obtain dash | ⟨d,small,same⟩ := chars 'u' member
    · exact absurd dash (by decide)
    · exact (hexFacts16 d small).2.2.2.2.2 same.symm
  have solid : ∀ c ∈ (uuidText bits).toList, brace c = false := by
    intro c member
    obtain rfl | ⟨d,small,rfl⟩ := chars c member
    · rfl
    · exact (hexFacts16 d small).2.2.2.1
  have front : ∀ xs : List Char, (∀ c ∈ xs, brace c = false) → xs.dropWhile brace = xs := by
    intro xs plain
    cases xs with
    | nil => rfl
    | cons c rest => exact List.dropWhile_cons_of_neg (by simp [plain c List.mem_cons_self])
  have back : (uuidText bits).toList.rdropWhile brace = (uuidText bits).toList := by
    rw [List.rdropWhile,front _ (fun c member => solid c (List.mem_reverse.mp member)),List.reverse_reverse]
  have keeps : ∀ xs : List Char, (∀ c ∈ xs, c ∈ uuidDigits bits) → xs.filter (· ≠ '-') = xs := by
    intro xs own
    refine List.filter_eq_self.mpr (fun c member => ?_)
    obtain ⟨d,small,rfl⟩ := uuidHex bits c (own c member)
    exact decide_eq_true (hexFacts16 d small).2.2.2.2.1.2.2.1
  have digits : (uuidText bits).toList.filter (· ≠ '-') = uuidDigits bits := by
    have joined := uuidShape bits
    rw [joined]
    simp only [List.filter_append,List.filter_cons]
    rw [keeps _ (fun c member => List.mem_of_mem_take member),
      keeps _ (fun c member => List.mem_of_mem_drop (List.mem_of_mem_take member)),
      keeps _ (fun c member => List.mem_of_mem_drop (List.mem_of_mem_take member)),
      keeps _ (fun c member => List.mem_of_mem_drop (List.mem_of_mem_take member)),
      keeps _ (fun c member => List.mem_of_mem_drop member)]
    simp only [ne_eq,not_true_eq_false,decide_false,Bool.false_eq_true,if_false]
    have four : ∀ n, ((uuidDigits bits).drop n).take 4 ++ (uuidDigits bits).drop (n + 4) = (uuidDigits bits).drop n := by
      intro n
      rw [← List.drop_drop]
      exact List.take_append_drop 4 _
    rw [List.append_assoc,List.append_assoc,List.append_assoc,four 16,four 12,four 8]
    exact List.take_append_drop 8 _
  have filled : uuidDigits bits ≠ [] := by
    intro none_
    have long := uuidLong bits
    rw [none_] at long
    cases long
  obtain ⟨n,read,small⟩ := int16Small filled (uuidHex bits)
  have marks : without "uuid:".toList 0 (without "urn:".toList 0 (uuidText bits).toList) = (uuidText bits).toList := by
    have urn : without "urn:".toList 0 (uuidText bits).toList = (uuidText bits).toList := withoutNone _ _ noU
    rw [urn]
    exact withoutNone _ _ noU
  rw [uuidLong] at small
  unfold isUuid
  simp only [marks,front _ solid,back,digits,uuidLong,read,beq_self_eq_true,Bool.true_and]
  exact decide_eq_true small

end Moadian.Mock
