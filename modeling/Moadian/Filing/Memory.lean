import Moadian.Config.Profiles
import Moadian.Filing.Lifecycle
import Moadian.Filing.Outcome

/-! Records and the memories that issued them. A record names its profile; what the
name stands for is kept elsewhere, and an administrator may store it anew. -/
namespace Moadian
open Resumption Handler Trace

inductive Endpoint where
  | save (body : Invoice)
  | update (invoiceId : Int) (body : Invoice)
  | delete (invoiceId : Int)
  | submit (body : Invoice) (recordId : Option Int)
  | inquirePending (limit : Int)
  | inquireOne (invoiceId : Int)
  | referring (invoiceId subject : Int)

def Endpoint.request (profile : Profile) : Endpoint → Request
  | save body => .save profile body
  | update invoiceId body => .update profile invoiceId body
  | delete invoiceId => .delete profile invoiceId
  | submit body recordId => .submit profile body recordId
  | inquirePending limit => .inquirePending profile limit
  | inquireOne invoiceId => .inquireOne profile invoiceId
  | referring invoiceId subject => .referring profile invoiceId subject

/- `settled` is what becomes of the rest: the environment, the address, the economic
code and the server's own key files. -/
def Api.createProfile (store : ProfileStore) (name memoryId : String) (settled : Except Exc Unit) :
    Except Exc ProfileStore := do
  let profile : Profile := ⟨name,memoryId⟩
  profile.validate
  settled
  store.save profile

namespace Filing

def filedId : Event service → Option Int
  | ⟨.saveInvoice record,_,saved⟩ => if record.state = .sent then saved.id else none
  | _ => none

def filedIds (tr : Trace) : List Int := tr.filterMap filedId

-- The records a request files under a tax id that the pipeline mints.
def mintedIn (endpoint : Endpoint) (tr : Trace) : List Int :=
  match endpoint with
  | .submit body _ => if body.header.taxid = "" then filedIds tr else []
  | _ => []

/- Both stores; and, to speak of them, the records whose tax id was minted. -/
structure Site where
  profiles : ProfileStore
  world : World
  minted : List Int

inductive Visit where
  | createProfile (name memoryId : String) (settled : Except Exc Unit)
  | invoice (name : String) (endpoint : Endpoint) (answers : List (Oracle service))

namespace Site

def fresh (path : String) : Site := ⟨ProfileStore.fresh path,nothing,[]⟩

def visit (engine : RuleEngine) (s : Site) : Visit → Site
  | .createProfile name memoryId settled =>
    match Api.createProfile s.profiles name memoryId settled with
    | .ok store => { s with profiles := store }
    | .error _ => s
  | .invoice name endpoint answers =>
    match s.profiles.load name with
    | .error _ => s
    | .ok profile =>
      let call := solo s.world (Task.start service ((endpoint.request profile).handle engine)) answers
      { s with world := call.1, minted := mintedIn endpoint call.2.trace ++ s.minted }

def after (engine : RuleEngine) (s : Site) (visits : List Visit) : Site := visits.foldl (visit engine) s

end Site

def UnderItsMemory (profiles : ProfileStore) (row : InvoiceColumns) : Prop :=
  ∃ profile ∈ (profiles.load row.profile).toOption, ∃ taxId ∈ row.taxId,
    TaxId.memorySegment taxId = profile.memoryId.toList.map TaxId.upper

instance (profiles : ProfileStore) (row : InvoiceColumns) : Decidable (UnderItsMemory profiles row) :=
  inferInstanceAs (Decidable (∃ profile ∈ _, ∃ taxId ∈ _, _))

def WithTheirMemory (s : Site) : Prop :=
  ∀ id ∈ s.minted, ∀ row ∈ s.world.invoices.get id, UnderItsMemory s.profiles row

instance (s : Site) : Decidable (WithTheirMemory s) := inferInstanceAs (Decidable (∀ id ∈ _, ∀ row ∈ _, _))

/- A name under which there are such records is not given another memory. -/
def Retains (s : Site) : Visit → Prop
  | .createProfile name memoryId settled => (Api.createProfile s.profiles name memoryId settled).isOk = true →
    ∀ id ∈ s.minted, ∀ row ∈ s.world.invoices.get id, row.profile = name →
      ∀ current ∈ (s.profiles.load name).toOption,
        memoryId.toList.map TaxId.upper = current.memoryId.toList.map TaxId.upper
  | .invoice _ _ _ => True

instance (s : Site) : (v : Visit) → Decidable (Retains s v)
  | .createProfile _ _ _ => by unfold Retains; infer_instance
  | .invoice _ _ _ => isTrue trivial

def Retaining (engine : RuleEngine) : Site → List Visit → Prop
  | _, [] => True
  | s, v :: rest => Retains s v ∧ Retaining engine (s.visit engine v) rest

instance decideRetaining (engine : RuleEngine) : (s : Site) → (visits : List Visit) → Decidable (Retaining engine s visits)
  | _, [] => isTrue trivial
  | s, v :: rest => @instDecidableAnd _ _ _ (decideRetaining engine (s.visit engine v) rest)

/-! What a submission leaves of the records it files. -/

structure FiledUnder (profile : Profile) (w : World) (id : Int) : Prop where
  filed : ∃ row taxId, w.invoices.get id = some row ∧ row.state.editable = false ∧ row.profile = profile.name ∧
    row.taxId = some taxId ∧ TaxId.memorySegment taxId = profile.memoryId.toList.map TaxId.upper

theorem filedIdUnwritten {e : Event service} (still : Op.writes e.op = false) : filedId e = none := by
  obtain ⟨o,inp,a⟩ := e
  cases o <;> first | rfl | cases still

theorem filedIdsSnoc (tr : Trace) (e : Event service) : filedIds (tr ++ [e]) = filedIds tr ++ (filedId e).toList := by
  rw [filedIds,List.filterMap_append]
  cases found : filedId e <;> simp [filedIds,found]

theorem filedIdsUnrecorded {tr : Trace} (unwritten : recorded tr = false) : filedIds tr = [] := by
  refine List.filterMap_eq_nil_iff.mpr (fun e member => filedIdUnwritten ?_)
  simpa using List.any_eq_false.mp unwritten e member

section Submission
variable {engine : RuleEngine} {profile : Profile} {body : Invoice} {recordId : Option Int}

theorem mintedMemory {memoryId : String} {complete : Invoice} (blank : body.header.taxid = "")
    (h : Identified memoryId body complete) :
    TaxId.memorySegment complete.header.taxid = memoryId.toList.map TaxId.upper := by
  cases h with
  | given own => exact absurd blank own
  | minted _ instant generated hex => exact TaxId.generatedMemory generated

structure Files (profile : Profile) (w w' : World) (tr : Trace) : Prop where
  along : Along w w' tr
  filed : ∀ id ∈ filedIds tr, FiledUnder profile w' id

theorem filesStep {w w1 w2 : World} {tr : Trace} {o : Op} {inp : o.Input} {a : o.Ans} (blank : body.header.taxid = "")
    (files : Files profile w w1 tr) (may : FileMay engine profile body recordId tr o)
    (answered : respond o inp w1 = some (a,w2)) : Files profile w w2 (tr ++ [⟨o,inp,a⟩]) := by
  refine ⟨alongStep files.along may answered,?_⟩
  have before := recordsOnce may
  have still : o.writes = false → ∀ id ∈ filedIds (tr ++ [⟨o,inp,a⟩]), FiledUnder profile w2 id := by
    intro still id member
    rw [filedIdsSnoc,filedIdsUnrecorded before,filedIdUnwritten still] at member
    cases member
  cases may with
  | read first named => exact still rfl
  | post once guard => exact still rfl
  | quiet quiet guard => exact still (writesNone (quietParts quiet).1)
  | refuse why =>
    obtain ⟨_,_,taken,_,rfl⟩ := why
    intro id member
    rw [filedIdsSnoc,filedIdsUnrecorded before] at member
    simp [filedId,Api.refused] at member
  | @file record s why =>
    obtain ⟨⟨packet,taxId,delivery,response,built,_,_,rfl⟩,taken,took,rfl⟩ := why
    obtain ⟨complete,identified,_,rfl⟩ := built.sealed
    have memory := mintedMemory blank identified
    cases Option.some.inj answered
    intro id member
    rw [filedIdsSnoc,filedIdsUnrecorded before] at member
    cases recordId with
    | none =>
      obtain ⟨_,rfl⟩ := took
      have own : id = w1.invoices.next := by simpa [filedId,Api.filed,Api.freshRecord,RecordStore.saveInvoice] using member
      subst own
      refine ⟨_,complete.header.taxid,(RecordStore.getSave _ _ _).trans (if_pos rfl),rfl,rfl,rfl,memory⟩
    | some r =>
      obtain ⟨row,looked,_,rfl⟩ := took
      have read := files.along.seen r (some row) (by rw [looked.1]; exact List.mem_cons_self)
      obtain ⟨columns,stored,rfl⟩ := RecordStore.getCases read.symm
      rw [← files.along.same before] at stored
      have own : id = r := by simpa [filedId,Api.filed,RecordStore.saveInvoice,RecordStore.invoice] using member
      subst own
      exact ⟨_,complete.header.taxid,RecordStore.savedSame stored rfl,rfl,looked.2.2,rfl,memory⟩

theorem mintedFiled (blank : body.header.taxid = "") (w : World) (answers : List (Oracle service)) :
    ∀ id ∈ filedIds (submitting engine profile body recordId w answers).2.trace,
      FiledUnder profile (submitting engine profile body recordId w answers).1 id := by
  have start : Files profile w w [] := ⟨⟨fun _ => rfl,by simp,by simp⟩,by simp [filedIds]⟩
  have kept := soloKeeps (J := Files profile w)
    (fun _ _ _ _ _ _ files may answered => filesStep blank files may answered)
    (t := Task.start service (Api.submitInvoice engine profile body recordId)) start
    (submitInvoiceObeys engine profile body recordId) answers
  exact kept.filed

end Submission

theorem requestFrozen (engine : RuleEngine) (request : Request) (w : World) (answers : List (Oracle service)) :
    Frozen w (solo w (Task.start service (request.handle engine)) answers).1 := by
  have met : Meets (Answered (fun _ => True)) w (session engine [(request,answers)]) :=
    meetsAlways (M := service) (fun _ _ _ _ _ _ _ _ _ => trivial) w _
  have start : Frozen w w := fun id row stored closed => ⟨row,stored,closed,sameRefl row⟩
  exact sessionKeeps (I := Frozen w) met (fun _ _ step first => first.trans (frozenStep step)) start _
    (serialVisited w (session engine [(request,answers)]))

/-! The invariant: such a record is filed, so it stands, under the memory its name has. -/

def Kept (s : Site) : Prop :=
  ∀ id ∈ s.minted, ∃ row, s.world.invoices.get id = some row ∧ row.state.editable = false ∧
    UnderItsMemory s.profiles row

theorem mintedUnder {engine : RuleEngine} {profile : Profile} {endpoint : Endpoint} {w : World}
    {answers : List (Oracle service)} {id : Int}
    (member : id ∈ mintedIn endpoint (solo w (Task.start service ((endpoint.request profile).handle engine)) answers).2.trace) :
    FiledUnder profile (solo w (Task.start service ((endpoint.request profile).handle engine)) answers).1 id := by
  cases endpoint with
  | submit body recordId =>
    unfold mintedIn at member
    simp only at member
    split at member
    · rename_i blank
      exact mintedFiled blank w answers id member
    · cases member
  | _ => cases member

theorem createdStore {store store' : ProfileStore} {name memoryId : String} {settled : Except Exc Unit}
    (h : Api.createProfile store name memoryId settled = .ok store') : store' = store.put ⟨name,memoryId⟩ := by
  change (Profile.validate ⟨name,memoryId⟩ >>= fun _ => settled >>= fun _ => store.save ⟨name,memoryId⟩) = .ok store' at h
  obtain ⟨_,valid,h⟩ := TaxId.okBind h
  obtain ⟨_,_,h⟩ := TaxId.okBind h
  rw [ProfileStore.save,valid] at h
  exact (Except.ok.inj h).symm

theorem keptVisit (engine : RuleEngine) {s : Site} {v : Visit} (kept : Kept s) (retains : Retains s v) :
    Kept (s.visit engine v) := by
  cases v with
  | invoice name endpoint answers =>
    cases loaded : s.profiles.load name with
    | error e =>
      have same : s.visit engine (.invoice name endpoint answers) = s := by simp only [Site.visit,loaded]
      rwa [same]
    | ok profile =>
      have own := ProfileStore.loadNamed loaded
      simp only [Site.visit,loaded]
      intro id member
      rcases List.mem_append.mp member with new | old
      · obtain ⟨row,taxId,stored,closed,named,given,memory⟩ := (mintedUnder new).filed
        refine ⟨row,stored,closed,profile,?_,taxId,given,memory⟩
        rw [named,own,loaded]
        rfl
      · obtain ⟨row,stored,closed,current,held,taxId,given,memory⟩ := kept id old
        obtain ⟨row',stored',closed',same⟩ :=
          requestFrozen engine (endpoint.request profile) s.world answers id row stored closed
        refine ⟨row',stored',closed',current,?_,taxId,same.2.2.1.trans given,memory⟩
        rw [same.1]
        exact held
  | createProfile name memoryId settled =>
    cases made : Api.createProfile s.profiles name memoryId settled with
    | error e =>
      have same : s.visit engine (.createProfile name memoryId settled) = s := by simp only [Site.visit,made]
      rwa [same]
    | ok store =>
      cases createdStore made
      simp only [Site.visit,made]
      intro id member
      obtain ⟨row,stored,closed,current,held,taxId,given,memory⟩ := kept id member
      refine ⟨row,stored,closed,?_⟩
      unfold UnderItsMemory
      rw [ProfileStore.loadPut]
      by_cases renewed : row.profile = name
      · have retained := retains (by rw [made]; rfl) id member row stored renewed current (renewed ▸ held)
        exact ⟨⟨name,memoryId⟩,by rw [if_pos renewed]; rfl,taxId,given,memory.trans retained.symm⟩
      · exact ⟨current,by rw [if_neg renewed]; exact held,taxId,given,memory⟩

/- While no name is given another memory, every record whose tax id was minted is
stored under the name of the memory that issued it. -/
theorem memoryKept (engine : RuleEngine) (path : String) (visits : List Visit)
    (met : Retaining engine (Site.fresh path) visits) : WithTheirMemory ((Site.fresh path).after engine visits) := by
  have run : ∀ (visits : List Visit) s, Kept s → Retaining engine s visits → Kept (s.after engine visits) := by
    intro visits
    induction visits with
    | nil => exact fun _ kept _ => kept
    | cons v rest ih => exact fun s kept met => ih _ (keptVisit engine kept met.1) met.2
  intro id member row stored
  obtain ⟨row',stored',_,under⟩ := run visits (Site.fresh path) (by simp [Kept,Site.fresh]) met id member
  rw [stored] at stored'
  cases stored'
  exact under

/-! One name, one invoice, and then the name for another memory. -/

def openedAndFiled : List Visit := [
  .createProfile "sandbox" "A11216" (.ok ()),
  .invoice "sandbox" (.submit Example.invoice none) (List.replicate 12 (Example.smooth 1 []))]

theorem memoryKeptOnce :
    WithTheirMemory ((Site.fresh "profiles.json").after Patterns.engine (openedAndFiled ++
      [.createProfile "sandbox" "A11216" (.ok ()),.createProfile "عملیاتی" "B22327" (.ok ())])) :=
  memoryKept Patterns.engine "profiles.json" _ (by decide +kernel)

def renamed : Site := (Site.fresh "profiles.json").after Patterns.engine
  (openedAndFiled ++ [.createProfile "sandbox" "B22327" (.ok ())])

theorem memoryLost : ¬ WithTheirMemory renamed := by decide +kernel

end Filing
end Moadian
