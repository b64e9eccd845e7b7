import Moadian.Config.Profile
import Moadian.Observed
import Moadian.Store.Goods

/-! The buyers of `RecordStore`: `list_buyers`, `add_buyer` and `delete_buyer`. An account
kept of the answers alone lists what the table lists. -/
namespace Moadian.Buyers
open Block Migration Goods

structure Buyer where
  name : String
  nationalId : String
  economicCode : Option String := none
  personType : Int := 2
  postalCode : Option String := none
  branchCode : Option String := none
  note : Option String := none
  id : Option Int := none
  createdAt : Option String := none
  deriving DecidableEq, Repr

abbrev BuyerError := GoodsError

def Buyer.validate (repr : String → String) (b : Buyer) : Except BuyerError Unit :=
  if (RuleEngine.strip b.name).isEmpty then .error (.configuration "buyer name must not be empty")
  else if (RuleEngine.strip b.nationalId).isEmpty then .error (.configuration "buyer national_id must not be empty")
  else if !Config.allDigits b.nationalId then
    .error (.configuration ("national_id " ++ repr b.nationalId ++ " must be digits"))
  else if b.personType ∉ [1,2,3,4,5] then
    .error (.configuration ("person_type " ++ toString b.personType ++ " is not a valid نوع شخص"))
  else .ok ()

def columns (b : Buyer) (created : String) : BuyerColumns where
  name := b.name
  nationalId := b.nationalId
  economicCode := b.economicCode
  personType := b.personType
  postalCode := b.postalCode
  branchCode := b.branchCode
  note := b.note
  createdAt := created

def buyer (row : Int × BuyerColumns) : Buyer where
  name := row.2.name
  nationalId := row.2.nationalId
  economicCode := row.2.economicCode
  personType := row.2.personType
  postalCode := row.2.postalCode
  branchCode := row.2.branchCode
  note := row.2.note
  id := some row.1
  createdAt := some row.2.createdAt

-- `ORDER BY name`: texts compare by their code points, and rows of one name stand as they were inserted.
def byName (a b : Buyer) : Bool := a.name ≤ b.name

def listBuyers (t : Table BuyerColumns) : List Buyer := (t.rows.map buyer).mergeSort byName

def insertBuyer (b : Buyer) (created : String) (t : Table BuyerColumns) : Except BuyerError (Int × Table BuyerColumns) :=
  match insertRow BuyerColumns.nationalId t (columns b created) with
  | .error _ => .error .integrity
  | .ok after => .ok (t.next,after)

def rowcount (id : Int) (t : Table BuyerColumns) : Nat := if (t.get id).isSome then 1 else 0

def deleteRow (id : Int) (t : Table BuyerColumns) : Except BuyerError (Nat × Table BuyerColumns) := do
  bindInteger id
  pure (rowcount id t,t.delete id)

def addBuyer (repr : String → String) (faults : Faults BuyerError) (created : String) (b : Buyer) (t : Table BuyerColumns) :
    Except BuyerError Buyer × Table BuyerColumns :=
  match b.validate repr with
  | .error e => (.error e,t)
  | .ok () =>
    match write faults (statement (insertBuyer b created)) t with
    | (.error .integrity,after) =>
      (.error (.configuration ("خریداری با شناسه ملی " ++ b.nationalId ++ " از پیش ثبت شده است")),after)
    | (.error e,after) => (.error e,after)
    | (.ok id,after) => (.ok { b with id := some id, createdAt := some created },after)

def deleteBody (id : Int) : Block (Table BuyerColumns) BuyerError Unit := do
  let rowcount ← statement (deleteRow id)
  if rowcount = 0 then throw (.configuration ("no buyer " ++ toString id)) else pure ()

def deleteBuyer (faults : Faults BuyerError) (id : Int) : Table BuyerColumns → Except BuyerError Unit × Table BuyerColumns :=
  write faults (deleteBody id)

inductive Request where
  | add (created : String) (b : Buyer)
  | delete (id : Int)

structure Call where
  request : Request
  faults : Faults BuyerError := quiet

def Call.run (repr : String → String) (c : Call) (t : Table BuyerColumns) : Except BuyerError (Option Buyer) × Table BuyerColumns :=
  match c.request with
  | .add created b => ((addBuyer repr c.faults created b t).1.map some,(addBuyer repr c.faults created b t).2)
  | .delete id => ((deleteBuyer c.faults id t).1.map (fun _ => none),(deleteBuyer c.faults id t).2)

/-! The account: what was answered, and nothing else. -/

abbrev Answered := Call × Except BuyerError (Option Buyer)

def noted (book : List Buyer) : Answered → List Buyer
  | (_,.error _) => book
  | (⟨.add ..,_⟩,.ok b) => book ++ b.toList
  | (⟨.delete id,_⟩,.ok _) => book.filter (fun b => b.id ≠ some id)

def issued : Answered → Option Int
  | (⟨.add ..,_⟩,.ok (some b)) => b.id
  | _ => none

def Welcome (repr : String → String) (book : List Buyer) : Request → Prop
  | .add _ b => b.validate repr = .ok () ∧ ∀ other ∈ book, other.nationalId ≠ b.nationalId
  | .delete id => Sqlite.fits id = true ∧ ∃ b ∈ book, b.id = some id

structure Told (repr : String → String) (told : List Answered) (t : Table BuyerColumns) : Prop where
  lists : listBuyers t = (told.foldl noted []).mergeSort byName
  unique : ((told.foldl noted []).map Buyer.nationalId).Nodup
  valid : ∀ b ∈ told.foldl noted [], b.validate repr = .ok ()
  fresh : (told.filterMap issued).Pairwise (· < ·)
  accepts : ∀ request, (∃ a, (Call.run repr ⟨request,quiet⟩ t).1 = .ok a) ↔ Welcome repr (told.foldl noted []) request
  refuses : ∀ c e, (Call.run repr c t).1 = .error e → (Call.run repr c t).2 = t

/-! The steps. -/

structure Sound (repr : String → String) (t : Table BuyerColumns) : Prop where
  unique : (t.rows.map (fun r => r.2.nationalId)).Nodup
  valid : ∀ r ∈ t.rows, (buyer r).validate repr = .ok ()

def listed (t : Table BuyerColumns) : List Buyer := t.rows.map buyer

section Steps
variable {repr : String → String} {t : Table BuyerColumns}

theorem soundEmpty : Sound repr .empty := ⟨List.nodup_nil,by rintro r ⟨⟩⟩

theorem insertMade {b : Buyer} {created : String} {n : Int} {after : Table BuyerColumns}
    (made : insertBuyer b created t = .ok (n,after)) :
    (∀ r ∈ t.rows, r.2.nationalId ≠ b.nationalId) ∧ n = t.next ∧ after = t.insert (columns b created) := by
  unfold insertBuyer insertRow at made
  split at made
  · cases made
  · rename_i inserted
    split at inserted
    · cases inserted
    · rename_i new
      cases inserted
      cases made
      refine ⟨fun r member same => ?_,rfl,rfl⟩
      exact new (List.any_eq_true.mpr ⟨r,member,decide_eq_true same⟩)

theorem insertNew {b : Buyer} (created : String) (new : ∀ r ∈ t.rows, r.2.nationalId ≠ b.nationalId) :
    insertBuyer b created t = .ok (t.next,t.insert (columns b created)) := by
  have apart : ¬ (t.rows.any fun r => r.2.nationalId = (columns b created).nationalId) = true := by
    intro taken
    obtain ⟨r,member,same⟩ := List.any_eq_true.mp taken
    exact new r member (of_decide_eq_true same)
  rw [insertBuyer,insertRow,if_neg apart]

variable (repr t) in
theorem addCases (faults : Faults BuyerError) (created : String) (b : Buyer) :
    (∃ e, addBuyer repr faults created b t = (.error e,t)) ∨
      b.validate repr = .ok () ∧ (∀ r ∈ t.rows, r.2.nationalId ≠ b.nationalId) ∧
        addBuyer repr faults created b t =
          (.ok { b with id := some t.next, createdAt := some created },t.insert (columns b created)) := by
  unfold addBuyer
  cases valid : b.validate repr with
  | error e => exact .inl ⟨e,rfl⟩
  | ok _ =>
    obtain ⟨e,raised⟩ | ⟨id,after,later,ran,ended⟩ := writeCases faults (statement (insertBuyer b created)) t
    · rw [raised]
      cases e <;> exact .inl ⟨_,rfl⟩
    · have made := ran
      simp only [statement] at made
      split at made
      · cases made
      · split at made
        · cases made
        · rename_i inserted
          cases made
          obtain ⟨new,rfl,rfl⟩ := insertMade inserted
          rw [ended]
          exact .inr ⟨rfl,new,rfl⟩

theorem addQuiet {b : Buyer} (created : String) (valid : b.validate repr = .ok ())
    (new : ∀ r ∈ t.rows, r.2.nationalId ≠ b.nationalId) :
    addBuyer repr quiet created b t = (.ok { b with id := some t.next, createdAt := some created },t.insert (columns b created)) := by
  simp only [addBuyer,valid,write,statement,quiet,insertNew created new]

theorem getSome {id : Int} : (t.get id).isSome = true ↔ ∃ r ∈ t.rows, r.1 = id := by
  constructor
  · intro found
    obtain ⟨a,stored⟩ := Option.isSome_iff_exists.mp found
    exact ⟨(id,a),(t.memGet id a).mpr stored,rfl⟩
  · rintro ⟨⟨_,a⟩,member,rfl⟩
    rw [(t.memGet _ a).mp member]
    rfl

theorem deleteRowMade {id : Int} {n : Nat} {after : Table BuyerColumns} (made : deleteRow id t = .ok (n,after)) :
    Sqlite.fits id = true ∧ n = rowcount id t ∧ after = t.delete id := by
  unfold deleteRow bindInteger at made
  cases fits : Sqlite.fits id with
  | false => rw [fits] at made; cases made
  | true => rw [fits] at made; cases made; exact ⟨rfl,rfl,rfl⟩

theorem deleteEnds (t : Table BuyerColumns) (id : Int) : Ends (· = t) (deleteBody id)
    (fun _ after => Sqlite.fits id = true ∧ (∃ r ∈ t.rows, r.1 = id) ∧ after = t.delete id) := by
  refine endsBind (Q := fun n after => Sqlite.fits id = true ∧ n = rowcount id t ∧ after = t.delete id) ?_ (fun n => ?_)
  · refine endsStatement (fun s n after start made => ?_)
    subst start
    exact deleteRowMade made
  · split
    · exact endsThrow _
    · rename_i counted
      refine endsPure (fun s ended => ?_)
      obtain ⟨fits,rfl,rfl⟩ := ended
      refine ⟨fits,getSome.mp ?_,rfl⟩
      by_contra absent
      exact counted (if_neg absent)

theorem deleteCases (faults : Faults BuyerError) (id : Int) :
    (∃ e, deleteBuyer faults id t = (.error e,t)) ∨
      Sqlite.fits id = true ∧ (∃ r ∈ t.rows, r.1 = id) ∧ deleteBuyer faults id t = (.ok (),t.delete id) := by
  obtain ⟨e,raised⟩ | ⟨u,after,later,ran,ended⟩ := writeCases faults (deleteBody id) t
  · exact .inl ⟨e,raised⟩
  · obtain ⟨fits,found,rfl⟩ := deleteEnds t id t faults u after later rfl ran
    exact .inr ⟨fits,found,ended⟩

theorem deleteQuiet {id : Int} (fits : Sqlite.fits id = true) (found : ∃ r ∈ t.rows, r.1 = id) :
    deleteBuyer quiet id t = (.ok (),t.delete id) := by
  have one : rowcount id t = 1 := if_pos (getSome.mpr found)
  simp only [deleteBuyer,write,deleteBody,statement,deleteRow,bindInteger,bind,StateT.bind,Except.bind,quiet,fits,if_pos,one]
  rfl

theorem insertSound {b : Buyer} {created : String} (sound : Sound repr t) (valid : b.validate repr = .ok ())
    (new : ∀ r ∈ t.rows, r.2.nationalId ≠ b.nationalId) : Sound repr (t.insert (columns b created)) := by
  constructor
  · rw [Table.insert,List.map_append,List.nodup_append]
    refine ⟨sound.unique,List.pairwise_singleton _ _,fun x old y own => ?_⟩
    obtain ⟨r,member,rfl⟩ := List.mem_map.mp old
    cases List.mem_singleton.mp own
    exact new r member
  · intro r member
    rcases List.mem_append.mp member with old | own
    · exact sound.valid r old
    · cases List.mem_singleton.mp own
      exact valid

theorem deleteSound {id : Int} (sound : Sound repr t) : Sound repr (t.delete id) where
  unique := sound.unique.sublist (List.filter_sublist.map _)
  valid := fun r member => sound.valid r (List.mem_filter.mp member).1

theorem runKeeps (c : Call) (t : Table BuyerColumns) (sound : Sound repr t) : Sound repr (c.run repr t).2 := by
  obtain ⟨request,faults⟩ := c
  cases request with
  | add created b =>
    obtain ⟨e,raised⟩ | ⟨valid,new,ended⟩ := addCases repr t faults created b
    · simpa only [Call.run,raised] using sound
    · simpa only [Call.run,ended] using insertSound sound valid new
  | delete id =>
    obtain ⟨e,raised⟩ | ⟨_,_,ended⟩ := deleteCases (t := t) faults id
    · simpa only [Call.run,raised] using sound
    · simpa only [Call.run,ended] using deleteSound sound

theorem listedInsert (b : Buyer) (created : String) :
    listed (t.insert (columns b created)) = listed t ++ [{ b with id := some t.next, createdAt := some created }] :=
  List.map_append

theorem listedDelete (id : Int) : listed (t.delete id) = (listed t).filter (fun b => b.id ≠ some id) := by
  rw [listed,listed,List.filter_map,Table.delete]
  congr 1
  refine List.filter_congr (fun r _ => ?_)
  simp [buyer]

theorem runNoted (c : Call) (t : Table BuyerColumns) : noted (listed t) (c,(c.run repr t).1) = listed (c.run repr t).2 := by
  obtain ⟨request,faults⟩ := c
  cases request with
  | add created b =>
    obtain ⟨e,raised⟩ | ⟨_,_,ended⟩ := addCases repr t faults created b
    · simp only [Call.run,raised]
      rfl
    · simp only [Call.run,ended]
      exact (listedInsert b created).symm
  | delete id =>
    obtain ⟨e,raised⟩ | ⟨_,_,ended⟩ := deleteCases (t := t) faults id
    · simp only [Call.run,raised]
      rfl
    · simp only [Call.run,ended]
      exact (listedDelete id).symm

theorem runIssued (c : Call) (t : Table BuyerColumns) : t.next ≤ (c.run repr t).2.next ∧
    ∀ n, issued (c,(c.run repr t).1) = some n → t.next ≤ n ∧ n < (c.run repr t).2.next := by
  obtain ⟨request,faults⟩ := c
  cases request with
  | add created b =>
    obtain ⟨e,raised⟩ | ⟨_,_,ended⟩ := addCases repr t faults created b
    · simp only [Call.run,raised]
      exact ⟨Int.le_refl _,by rintro n ⟨⟩⟩
    · simp only [Call.run,ended]
      refine ⟨Int.le_of_lt (Int.lt_succ t.next),fun n key => ?_⟩
      cases key
      exact ⟨Int.le_refl _,Int.lt_succ t.next⟩
  | delete id =>
    obtain ⟨e,raised⟩ | ⟨_,_,ended⟩ := deleteCases (t := t) faults id
    · simp only [Call.run,raised]
      exact ⟨Int.le_refl _,by rintro n ⟨⟩⟩
    · simp only [Call.run,ended]
      exact ⟨Int.le_refl _,by rintro n ⟨⟩⟩

theorem runRefused {c : Call} {e : BuyerError} (raised : (c.run repr t).1 = .error e) : (c.run repr t).2 = t := by
  obtain ⟨request,faults⟩ := c
  cases request with
  | add created b =>
    obtain ⟨e',stopped⟩ | ⟨_,_,ended⟩ := addCases repr t faults created b
    · simp only [Call.run,stopped]
    · simp only [Call.run,ended] at raised
      cases raised
  | delete id =>
    obtain ⟨e',stopped⟩ | ⟨_,_,ended⟩ := deleteCases (t := t) faults id
    · simp only [Call.run,stopped]
    · simp only [Call.run,ended] at raised
      cases raised

theorem runWelcome (t : Table BuyerColumns) (request : Request) :
    (∃ a, (Call.run repr ⟨request,quiet⟩ t).1 = .ok a) ↔ Welcome repr (listed t) request := by
  have apart : ∀ b : Buyer, (∀ other ∈ listed t, other.nationalId ≠ b.nationalId) ↔ ∀ r ∈ t.rows, r.2.nationalId ≠ b.nationalId :=
    fun b => List.forall_mem_map
  have known : ∀ id, (∃ b ∈ listed t, b.id = some id) ↔ ∃ r ∈ t.rows, r.1 = id := by
    intro id
    simp [listed,buyer]
  cases request with
  | add created b =>
    rw [Welcome,apart]
    constructor
    · rintro ⟨a,returned⟩
      obtain ⟨e,raised⟩ | ⟨valid,new,_⟩ := addCases repr t quiet created b
      · simp only [Call.run,raised] at returned
        cases returned
      · exact ⟨valid,new⟩
    · rintro ⟨valid,new⟩
      simp only [Call.run,addQuiet created valid new]
      exact ⟨_,rfl⟩
  | delete id =>
    rw [Welcome,known]
    constructor
    · rintro ⟨a,returned⟩
      obtain ⟨e,raised⟩ | ⟨fits,found,_⟩ := deleteCases (t := t) quiet id
      · simp only [Call.run,raised] at returned
        cases returned
      · exact ⟨fits,found⟩
    · rintro ⟨fits,found⟩
      simp only [Call.run,deleteQuiet fits found]
      exact ⟨_,rfl⟩

end Steps

open Observed in
theorem buyersTold (repr : String → String) (calls : List Call) :
    Told repr (answers (Call.run repr) .empty calls) (after (Call.run repr) .empty calls) := by
  have sound : Sound repr (after (Call.run repr) .empty calls) := afterKeeps runKeeps soundEmpty calls
  have follows : (answers (Call.run repr) .empty calls).foldl noted [] = listed (after (Call.run repr) .empty calls) :=
    accountFollows runKeeps (fun c t _ => runNoted c t) soundEmpty calls
  refine ⟨?_,?_,?_,?_,?_,fun c e => runRefused⟩ <;> try rw [follows]
  · rfl
  · rw [listed,List.map_map]
    exact sound.unique
  · exact List.forall_mem_map.mpr sound.valid
  · exact (marksRise runKeeps (fun c t _ => runIssued c t) soundEmpty calls).1
  · exact runWelcome _

end Moadian.Buyers
