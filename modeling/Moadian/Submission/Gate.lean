import Moadian.Api.Example
import Moadian.Contract.Batch

/-! The engine's gate, and what was spent when it closed. The engine runs for each
invoice right before that invoice is given its identity, so what decides is what
stands before the first invoice it refuses. -/
namespace Moadian.Submission
open Resumption

def Unspent (tr : Trace) : Prop := ∀ e ∈ tr, Op.isDraw e.op = false ∧ e.op.isPost = false

instance (tr : Trace) : Decidable (Unspent tr) :=
  inferInstanceAs (Decidable (∀ e ∈ tr, Op.isDraw e.op = false ∧ e.op.isPost = false))

def Refused {α : Type} : Handler α → Prop
  | .raise (.invoiceValidation _) => True
  | _ => False

instance {α : Type} : (p : Handler α) → Decidable (Refused p)
  | .ret _ => isFalse id
  | .op _ _ => isFalse id
  | .raise e => by cases e <;> first | exact isTrue trivial | exact isFalse id

def passedFirst (pipeline : InvoicePipeline) (invoices : List Invoice) : List Invoice :=
  invoices.takeWhile (fun i => (pipeline.rules.validate i).ok)

def NothingToSpend (pipeline : InvoicePipeline) (invoices : List Invoice) : Prop :=
  (passedFirst pipeline invoices).length < maxPackets ∧ ∀ i ∈ passedFirst pipeline invoices, i.header.taxid ≠ ""

theorem unspentSpends {tr : Trace} : Unspent tr ↔ ∀ s ∈ Trace.spends tr, ∃ document, s = .seal document := by
  have one : ∀ e : Event service, (Op.isDraw e.op = false ∧ e.op.isPost = false) ↔
      ∀ s ∈ Trace.spendOf e, ∃ document, s = .seal document := by
    intro e
    obtain ⟨o,inp,a⟩ := e
    cases o <;> simp [Op.isDraw,Op.isPost,Trace.spendOf]
  induction tr with
  | nil => simp [Unspent,Trace.spends]
  | cons e rest ih =>
    have parts : Unspent (e :: rest) ↔ (Op.isDraw e.op = false ∧ e.op.isPost = false) ∧ Unspent rest := by
      simp [Unspent]
    refine (parts.trans (and_congr (one e) ih)).trans ?_
    cases spent : Trace.spendOf e <;> simp [Trace.spends,spent]

theorem unspentDraw {memoryId : String} {invoice complete : Invoice} {serial : Option Int}
    (h : Completes memoryId invoice serial complete) : Line.draw serial = [] ↔ invoice.header.taxid ≠ "" := by
  cases h with
  | given own => simpa [Line.draw] using own
  | minted blank => simpa [Line.draw] using blank

theorem unspentLine {memoryId : String} {l : Line} (sound : l.Sound memoryId) :
    (∀ s ∈ l.spends, ∃ document, s = .seal document) ↔ l.invoice.header.taxid ≠ "" := by
  rw [← unspentDraw sound.completes]
  cases drawn : l.serial <;> simp [Line.spends,Line.draw,drawn]

theorem unspentLines {pipeline : InvoicePipeline} {invoices : List Invoice} {s : List Spend} {lines : List Line}
    (built : BuiltLines pipeline invoices s lines) :
    (∀ x ∈ s, ∃ document, x = .seal document) ↔ ∀ i ∈ invoices, i.header.taxid ≠ "" := by
  have spent := built.spent
  have own := built.own
  subst spent own
  simp only [List.mem_flatMap,List.mem_map]
  constructor
  · rintro unspent _ ⟨l,member,rfl⟩
    exact (unspentLine (built.sound l member)).mp (fun x inside => unspent x ⟨l,member,inside⟩)
  · rintro given x ⟨l,member,inside⟩
    exact (unspentLine (built.sound l member)).mpr (given _ ⟨l,member,rfl⟩) x inside

theorem fullChunks {size : Nat} (positive : 0 < size) {before : List (List Invoice)} :
    ∀ {invoices chunk : List Invoice} {later : List (List Invoice)}, slices size invoices = before ++ chunk :: later →
    (∀ c ∈ before, c.length = size) ∧ chunk.length ≤ size ∧ ∃ rest, invoices = before.flatten ++ (chunk ++ rest) := by
  induction before with
  | nil =>
    intro invoices chunk later cut
    by_cases some_ : invoices = []
    · rw [some_,slicesNil] at cut
      cases cut
    · rw [slicesCons positive some_] at cut
      obtain ⟨rfl,_⟩ := List.cons.inj cut
      exact ⟨by simp,List.length_take_le _ _,_,(List.take_append_drop size invoices).symm⟩
  | cons first before ih =>
    intro invoices chunk later cut
    by_cases some_ : invoices = []
    · rw [some_,slicesNil] at cut
      cases cut
    · rw [slicesCons positive some_] at cut
      obtain ⟨rfl,tail⟩ := List.cons.inj cut
      obtain ⟨full,small,rest,same⟩ := ih tail
      have more : invoices.drop size ≠ [] := by
        intro none_
        rw [none_,slicesNil] at tail
        simp at tail
      have long : (invoices.take size).length = size := by
        have := List.length_pos_of_ne_nil more
        rw [List.length_drop] at this
        rw [List.length_take]
        omega
      refine ⟨?_,small,rest,?_⟩
      · intro c member
        rcases List.mem_cons.mp member with rfl | inside
        · exact long
        · exact full c inside
      · rw [List.flatten_cons,List.append_assoc,← same,List.take_append_drop]

theorem acceptedPassed {pipeline : InvoicePipeline} {passed after : List Invoice} {bad : Invoice}
    (ok : ∀ i ∈ passed, accepts pipeline i) (refused : ¬ accepts pipeline bad) :
    passedFirst pipeline (passed ++ bad :: after) = passed := by
  have stop : (pipeline.rules.validate bad).ok = false := by simpa [accepts] using refused
  rw [passedFirst,List.takeWhile_append_of_pos ok]
  simp [stop]

theorem sendingPosts (x : Sending) : ¬ ∀ s ∈ x.spends, ∃ document, s = .seal document := by
  intro unspent
  obtain ⟨_,same⟩ := unspent (.post (x.lines.map Line.packet) x.delivery) (by simp [Sending.spends])
  cases same

/- Of the calls that end with the engine's refusal, these are the ones in which
nothing was spent. -/
theorem gateCloses (pipeline : InvoicePipeline) (validated : pipeline.validate = true) (invoices : List Invoice)
    (w : World) (answers : List (Oracle service))
    (ordinary : Ordinary (submitting pipeline invoices w answers).trace)
    (refused : Refused (submitting pipeline invoices w answers).prog) :
    Unspent (submitting pipeline invoices w answers).trace ↔ NothingToSpend pipeline invoices := by
  obtain ⟨violations,raised⟩ : ∃ violations, (submitting pipeline invoices w answers).prog.outcome =
      some (.error (.invoiceValidation violations)) := by
    generalize (submitting pipeline invoices w answers).prog = p at refused
    unfold Refused at refused
    split at refused
    · exact ⟨_,rfl⟩
    · exact refused.elim
  obtain ⟨s,spent,held⟩ := submittingEnds raised
  have stopped := held (fun e same => by cases same; exact ⟨rfl,ordinary⟩)
  obtain ⟨xs,chunk,later,s',before,sound,cut,rfl,⟨⟨lines,built⟩,_,bad,after,rfl,broken⟩⟩ := stopped
  obtain ⟨full,small,rest,rfl⟩ := fullChunks (by decide) cut
  have passedAll : ∀ i ∈ (xs.map Sending.invoices).flatten ++ before, accepts pipeline i := by
    intro i member
    rcases List.mem_append.mp member with earlier | here
    · obtain ⟨chunk,inside,own⟩ := List.mem_flatten.mp earlier
      obtain ⟨x,mem,rfl⟩ := List.mem_map.mp inside
      exact (sound x mem).built.passed validated i own
    · exact built.passed validated i here
  have passed : passedFirst pipeline ((xs.map Sending.invoices).flatten ++ (before ++ bad :: after ++ rest)) =
      (xs.map Sending.invoices).flatten ++ before := by
    have shape : (xs.map Sending.invoices).flatten ++ (before ++ bad :: after ++ rest) =
        (xs.map Sending.invoices).flatten ++ before ++ bad :: (after ++ rest) := by simp
    rw [shape]
    exact acceptedPassed passedAll broken
  rw [unspentSpends,spent,NothingToSpend,passed]
  cases xs with
  | nil =>
    have few : before.length < maxPackets := by
      rw [List.length_append,List.length_cons] at small
      omega
    simpa [few] using unspentLines built
  | cons x xs =>
    constructor
    · intro unspent
      refine absurd (fun y inside => unspent y ?_) (sendingPosts x)
      exact List.mem_append_left _ (List.mem_flatMap.mpr ⟨x,List.mem_cons_self,inside⟩)
    · intro free
      have first : x.invoices.length = maxPackets := full _ (by simp)
      have long := free.1
      rw [List.map_cons,List.flatten_cons,List.length_append,List.length_append,first] at long
      omega

-- An invoice under its own tax id stands in front: it is passed, signed and costs no serial.
theorem gateClosesAtOnce :
    Unspent (submitting Example.pipeline [Example.under "A1121604C220002F095011",Example.bodiless] Example.drafted
        (List.replicate 12 (Example.smooth 1 []))).trace ↔
      NothingToSpend Example.pipeline [Example.under "A1121604C220002F095011",Example.bodiless] :=
  gateCloses Example.pipeline rfl _ _ _ (by decide +kernel) (by decide +kernel)

-- A serial is gone before the second invoice is looked at.
theorem spentThenRefused :
    let call := submitting Example.pipeline [Example.invoice,Example.bodiless] Example.drafted
      (List.replicate 12 (Example.smooth 1 []))
    Refused call.prog ∧ ¬ Unspent call.trace := by decide +kernel

end Moadian.Submission
