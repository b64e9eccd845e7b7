import Moadian.Config.Settings
import Moadian.TaxId

/-! A fiscal memory id is checked in three places: a profile matches it, the tax id
takes it in full, and the counter of its serials is a file named after it. -/
namespace Moadian.Config
open TaxId

def sixOf (memoryId : String) : List Char := memoryId.toList.take 6

def EndsLine (memoryId : String) : Prop := memoryId.toList.getLast? = some '\n'

instance (memoryId : String) : Decidable (EndsLine memoryId) := by unfold EndsLine; infer_instance

-- The instants whose days the five hex digits can count.
def Countable (issued : Int) : Prop := 0 ≤ issued / secondsPerDay ∧ issued / secondsPerDay ≤ maxDayRange

def Issues (memoryId : String) : Prop := ∀ serial issued : Int, 0 ≤ serial → serial ≤ maxSerial → Countable issued →
  ∃ taxid, generateTaxId memoryId serial issued = .ok taxid ∧ memoryId.toList <+: taxid.toList

theorem validMatches {repr : Json → String} {profile : Profile} (valid : profile.validate repr = .ok ()) :
    memoryIdMatches profile.memoryId = true := by
  unfold Profile.validate at valid
  dsimp only at valid
  split at valid
  · cases valid
  · split at valid
    · cases valid
    · rename_i own
      simpa using own

/- Six characters of the expression, and after them at most a line break. -/
structure Matched (memoryId : String) : Prop where
  six : (sixOf memoryId).length = 6
  class_ : ∀ c ∈ sixOf memoryId, TaxId.isDigit c = true ∨ ('A' ≤ c ∧ c ≤ 'Z')
  text : memoryId.toList = sixOf memoryId ∨ memoryId.toList = sixOf memoryId ++ ['\n']

theorem matchedOf {memoryId : String} (h : memoryIdMatches memoryId = true) : Matched memoryId := by
  simp only [memoryIdMatches,Bool.and_eq_true,beq_iff_eq,Bool.or_eq_true,List.all_eq_true,decide_eq_true_eq] at h
  obtain ⟨⟨six,class_⟩,tail⟩ := h
  have whole := List.take_append_drop 6 memoryId.toList
  refine ⟨six,class_,?_⟩
  rcases tail with none_ | line
  · left
    rw [none_,List.append_nil] at whole
    exact whole.symm
  · right
    rw [line] at whole
    exact whole.symm

theorem Matched.ordinary {memoryId : String} (m : Matched memoryId) {c : Char} (own : c ∈ sixOf memoryId) :
    c ≠ '\n' ∧ c ≠ '/' ∧ isAlphanumeric c = true ∧ upper c = c := by
  have range : (48 ≤ c.toNat ∧ c.toNat ≤ 57) ∨ (65 ≤ c.toNat ∧ c.toNat ≤ 90) := by
    have class_ := m.class_ c own
    simp only [TaxId.isDigit,Bool.and_eq_true,decide_eq_true_eq,charLe] at class_
    exact class_
  refine ⟨?_,?_,?_,?_⟩
  · intro line
    rw [line] at range
    exact absurd range (by decide)
  · intro slash
    rw [slash] at range
    exact absurd range (by decide)
  · simp only [isAlphanumeric,TaxId.isDigit,Bool.or_eq_true,Bool.and_eq_true,decide_eq_true_eq,charLe]
    exact .inl range
  · unfold upper
    rw [if_neg]
    simp only [Bool.and_eq_true,decide_eq_true_eq,charLe]
    intro lower
    have small : 97 ≤ c.toNat := lower.1
    omega

theorem Matched.endsLine {memoryId : String} (m : Matched memoryId) :
    EndsLine memoryId ↔ memoryId.toList = sixOf memoryId ++ ['\n'] := by
  constructor
  · intro ends
    rcases m.text with plain | line
    · rw [EndsLine,plain] at ends
      exact absurd rfl (m.ordinary (List.mem_of_getLast? ends)).1
    · exact line
  · intro line
    rw [EndsLine,line]
    simp

theorem Matched.plain {memoryId : String} (m : Matched memoryId) (no : ¬ EndsLine memoryId) :
    memoryId.toList = sixOf memoryId :=
  m.text.resolve_right (fun line => no (m.endsLine.mpr line))

theorem Matched.accepted {memoryId : String} (m : Matched memoryId) (no : ¬ EndsLine memoryId) :
    validateMemoryId memoryId = .ok memoryId.toList := by
  have plain := m.plain no
  have length : memoryId.length = 6 := by rw [← String.length_toList,plain,m.six]
  have class_ : memoryId.toList.all isAlphanumeric = true := by
    rw [List.all_eq_true]
    intro c own
    rw [plain] at own
    exact (m.ordinary own).2.2.1
  have same : memoryId.toList.map upper = memoryId.toList := by
    refine (List.map_congr_left ?_).trans (List.map_id _)
    intro c own
    rw [plain] at own
    exact (m.ordinary own).2.2.2
  rw [validateMemoryId,if_pos ⟨length,class_⟩,same]

theorem Matched.refused {memoryId : String} (m : Matched memoryId) (ends : EndsLine memoryId) (serial issued : Int) :
    ¬ ∃ taxid, generateTaxId memoryId serial issued = .ok taxid := by
  intro made
  obtain ⟨taxid,made⟩ := made
  obtain ⟨memory,valid,_⟩ := okBind made
  have length : memoryId.length = 7 := by
    rw [← String.length_toList,m.endsLine.mp ends,List.length_append,m.six]
    rfl
  rw [validateMemoryId,if_neg (by omega)] at valid
  cases valid

theorem Matched.issues {memoryId : String} (m : Matched memoryId) : Issues memoryId ↔ ¬ EndsLine memoryId := by
  constructor
  · intro issues ends
    obtain ⟨taxid,made,_⟩ := issues 0 0 (by decide) (by decide) ⟨by decide,by decide⟩
    exact m.refused ends 0 0 ⟨taxid,made⟩
  · intro no serial issued positive small countable
    have last : issued ≤ lastInTehran := by
      have most := countable.2
      simp only [secondsPerDay,maxDayRange,lastInTehran] at most ⊢
      omega
    obtain ⟨taxid,made⟩ := generatesIn (m.accepted no) positive small last countable.1 countable.2
    refine ⟨taxid,made,?_⟩
    obtain ⟨_,_,_,_,layout⟩ := generatedLayout made
    obtain ⟨rest,text⟩ := layout.text
    have upperSame := (validMemory (m.accepted no)).1
    rw [text,← upperSame]
    exact List.prefix_append _ _

theorem counterName {memoryId : String} (m : Matched memoryId) :
    '/' ∉ ("serial-" ++ memoryId).toList ∧ 1 < ("serial-" ++ memoryId).length := by
  constructor
  · have slash : '/' ∉ sixOf memoryId := fun own => (m.ordinary own).2.1 rfl
    rw [String.toList_append]
    rcases m.text with plain | line
    · rw [plain]
      simp [slash]
    · rw [line]
      simp [slash]
  · rw [String.length_append]
    have prefixed : "serial-".length = 7 := by decide
    omega

theorem sameCounter {settings : Settings} {a b : String} (ma : Matched a) (mb : Matched b) :
    settings.serialCounterPath a = settings.serialCounterPath b ↔ a = b := by
  obtain ⟨insideA,longA⟩ := counterName ma
  obtain ⟨insideB,longB⟩ := counterName mb
  rw [Settings.serialCounterPath,Settings.serialCounterPath,childName insideA insideB longA longB]
  exact String.append_right_inj _

/- Of two profiles that validate, both can issue and each memory has the one counter,
exactly when neither memory id ends in a line break. -/
theorem validProfilesIssue (repr : Json → String) (settings : Settings) {profile other : Profile}
    (valid : profile.validate repr = .ok ()) (valid' : other.validate repr = .ok ()) :
    (Issues profile.memoryId ∧ Issues other.memoryId ∧
      (settings.serialCounterPath profile.memoryId = settings.serialCounterPath other.memoryId ↔
        sixOf profile.memoryId = sixOf other.memoryId)) ↔
    ¬ EndsLine profile.memoryId ∧ ¬ EndsLine other.memoryId := by
  have m := matchedOf (validMatches valid)
  have m' := matchedOf (validMatches valid')
  rw [m.issues,m'.issues,sameCounter m m']
  constructor
  · rintro ⟨no,no',_⟩
    exact ⟨no,no'⟩
  · rintro ⟨no,no'⟩
    refine ⟨no,no',?_⟩
    rw [← m.plain no,← m'.plain no',String.toList_inj]

def Example.lined : Profile := ⟨"sandbox","A11216\n",.sandbox,none,none⟩

def Example.unlined : Profile := ⟨"sandbox","A11216",.sandbox,none,none⟩

def Example.settings : Settings := { instanceDir := ⟨"",["instance"]⟩ }

def Example.neighbour : Profile := ⟨"sandbox","A11217",.sandbox,none,none⟩

theorem validProfilesIssueApart : Issues "A11216" ∧ Issues "A11217" ∧
    (Example.settings.serialCounterPath "A11216" = Example.settings.serialCounterPath "A11217" ↔
      sixOf "A11216" = sixOf "A11217") :=
  have valid : Example.unlined.validate (fun _ => "") = .ok () := rfl
  have valid' : Example.neighbour.validate (fun _ => "") = .ok () := rfl
  (validProfilesIssue (fun _ => "") Example.settings valid valid').mpr ⟨by decide +kernel,by decide +kernel⟩

/- A line break at the end passes the profile, and neither the tax id nor the counter
of the memory. -/
theorem linedProfileRefused : (∀ repr, Example.lined.validate repr = .ok ()) ∧
    (∀ serial issued, ¬ ∃ taxid, generateTaxId Example.lined.memoryId serial issued = .ok taxid) ∧
    sixOf Example.lined.memoryId = sixOf Example.unlined.memoryId ∧
    ∀ settings : Settings, settings.serialCounterPath Example.lined.memoryId ≠
      settings.serialCounterPath Example.unlined.memoryId := by
  have lined : Matched Example.lined.memoryId := matchedOf (by decide +kernel)
  have unlined : Matched Example.unlined.memoryId := matchedOf (by decide +kernel)
  refine ⟨?_,fun serial issued => lined.refused (by decide +kernel) serial issued,by decide +kernel,?_⟩
  · intro repr
    rfl
  · intro settings same
    exact absurd ((sameCounter lined unlined).mp same) (by decide +kernel)

end Moadian.Config
