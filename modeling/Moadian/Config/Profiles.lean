import Moadian.Service
import Moadian.TaxId

/-! The profiles: a name, and the fiscal memory it stands for. -/
namespace Moadian

-- `^[A-Z0-9]{6}$`; the `$` also matches in front of a last line break.
def memoryIdMatches (memoryId : String) : Bool :=
  let chars := memoryId.toList
  (chars.take 6).length == 6 && (chars.take 6).all (fun c => TaxId.isDigit c || ('A' ≤ c && c ≤ 'Z')) &&
    (chars.drop 6 == [] || chars.drop 6 == ['\n'])

/- The address and the economic code are checked as well; a profile here has neither. -/
def Profile.validate (profile : Profile) : Except Exc Unit :=
  if Json.isBlank profile.name then .error (.configuration "profile name must not be empty")
  else if !memoryIdMatches profile.memoryId then
    .error (.configuration ("memory_id '" ++ profile.memoryId ++ "' must be 6 characters of A-Z or 0-9"))
  else .ok ()

structure ProfileStore where
  path : String
  profiles : List (String × Profile)
  named : ∀ entry ∈ profiles, entry.2.name = entry.1

namespace ProfileStore

def fresh (path : String) : ProfileStore := ⟨path,[],by simp⟩

def load (store : ProfileStore) (name : String) : Except Exc Profile :=
  match store.profiles.lookup name with
  | some profile => .ok profile
  | none => .error (.configuration ("no profile named '" ++ name ++ "' in " ++ store.path))

def put (store : ProfileStore) (profile : Profile) : ProfileStore where
  path := store.path
  profiles := (profile.name,profile) :: store.profiles.filter (fun entry => entry.1 ≠ profile.name)
  named := by
    intro entry member
    rcases List.mem_cons.mp member with rfl | old
    · rfl
    · exact store.named entry (List.mem_filter.mp old).1

def save (store : ProfileStore) (profile : Profile) : Except Exc ProfileStore :=
  profile.validate.map (fun _ => store.put profile)

theorem loadPut (store : ProfileStore) (profile : Profile) (name : String) : (store.put profile).load name =
    if name = profile.name then .ok profile else store.load name := by
  unfold load put
  rw [List.lookup_cons]
  by_cases same : name = profile.name
  · simp [same]
  · have other : (name == profile.name) = false := by simpa using same
    have kept : (store.profiles.filter (fun entry => entry.1 ≠ profile.name)).lookup name = store.profiles.lookup name := by
      induction store.profiles with
      | nil => rfl
      | cons entry rest ih =>
        obtain ⟨key,value⟩ := entry
        by_cases own : key = profile.name
        · simpa [own,List.lookup_cons,other] using ih
        · rw [List.filter_cons_of_pos (by simpa using own),List.lookup_cons,List.lookup_cons,ih]
    simp only [other,kept,if_neg same]

theorem loadNamed {store : ProfileStore} {name : String} {profile : Profile} (h : store.load name = .ok profile) :
    profile.name = name := by
  unfold load at h
  split at h
  · rename_i found
    cases Except.ok.inj h
    exact store.named (name,profile) (Json.lookupMem found)
  · cases h

end ProfileStore
end Moadian
