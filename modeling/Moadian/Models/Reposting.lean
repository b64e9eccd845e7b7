import Moadian.Models.Validation
import Moadian.Rules.Presence
import Moadian.Rules.Recompute

/-! An invoice that has gone over the wire is posted again: what the encoder leaves of
it, and what the decoder makes of that. -/
namespace Moadian
open Json

def onWire (v : Option Json) : Option Json := v.bind (fun v => if blankString v then none else some (withoutBlanks v))

def wireFields (fields : List (String × Option Json)) : List (String × Option Json) :=
  fields.map (fun f => (f.1,onWire f.2))

theorem wirePresent (fields : List (String × Option Json)) :
    withoutBlanks (.obj (present fields)) = .obj (present (wireFields fields)) := by
  rw [withoutBlanks]
  congr 1
  induction fields with
  | nil => rfl
  | cons f rest ih =>
    obtain ⟨k,v⟩ := f
    cases v with
    | none => exact ih
    | some v =>
      cases blank : blankString v with
      | true => simpa [present,wireFields,onWire,withoutBlanksMembers,blank] using ih
      | false => simpa [present,wireFields,onWire,withoutBlanksMembers,blank] using ih

mutual
theorem blanksTwice : (v : Json) → withoutBlanks (withoutBlanks v) = withoutBlanks v
  | .obj members => by rw [withoutBlanks,withoutBlanks,blanksTwiceMembers members]
  | .arr items => by rw [withoutBlanks,withoutBlanks,blanksTwiceItems items]
  | .null | .bool _ | .int _ | .float _ | .str _ => rfl

theorem blanksTwiceMembers : (members : Dict) → withoutBlanksMembers (withoutBlanksMembers members) = withoutBlanksMembers members
  | [] => rfl
  | (k,v) :: rest => by
    have later := blanksTwiceMembers rest
    have here := blanksTwice v
    cases blank : blankString v with
    | true => simpa [withoutBlanksMembers,blank] using later
    | false =>
      have still : blankString (withoutBlanks v) = false := by cases v <;> exact blank
      simp only [withoutBlanksMembers,blank,Bool.false_eq_true,if_false,still,here,later]

theorem blanksTwiceItems : (items : List Json) → withoutBlanksItems (withoutBlanksItems items) = withoutBlanksItems items
  | [] => rfl
  | v :: rest => by
    have later := blanksTwiceItems rest
    simp only [withoutBlanksItems,blanksTwice v,later]
end

theorem wireKeys (fields : List (String × Option Json)) : (wireFields fields).map Prod.fst = keys fields := by
  simp [wireFields,keys]

theorem wireLookup {fields : List (String × Option Json)} (nodup : (fields.map Prod.fst).Nodup) {name : String}
    {v : Option Json} (own : (name,v) ∈ fields) : (present (wireFields fields)).lookup name = onWire v := by
  have nodup' : ((wireFields fields).map Prod.fst).Nodup := by rw [wireKeys]; exact nodup
  have found : (name,onWire v) ∈ wireFields fields := List.mem_map_of_mem (f := fun f => (f.1,onWire f.2)) own
  rw [lookupPresent nodup',lookupOwn nodup' found]
  rfl

/-! One field, encoded and decoded. -/

def inked (s : Option String) : Option String := s.filter (fun s => !isBlank s)

theorem onWireText (s : Option String) : onWire (s.map .str) = (inked s).map .str := by
  cases s with
  | none => rfl
  | some s => cases blank : isBlank s <;> simp [onWire,inked,blankString,blank,withoutBlanks,Option.filter]

theorem onWireInked (s : Option String) : onWire ((inked s).map .str) = onWire (s.map .str) := by
  cases s with
  | none => rfl
  | some s => cases blank : isBlank s <;> simp [onWire,inked,blankString,blank,Option.filter]

namespace Checked
variable {p : Conversions} {fields : List (String × Option Json)} {name : String}

theorem wireText (nodup : (fields.map Prod.fst).Nodup) {s : Option String} (own : (name,s.map .str) ∈ fields) :
    optional (present (wireFields fields)) name p.str = .ok (inked s) :=
  readText (by rw [wireLookup nodup own,onWireText])

theorem wireInt (nodup : (fields.map Prod.fst).Nodup) {n : Option Int} (own : (name,n.map .int) ∈ fields) :
    optional (present (wireFields fields)) name p.int = .ok n :=
  readInt (by
    rw [wireLookup nodup own]
    cases n <;> rfl)

theorem wireFloat (nodup : (fields.map Prod.fst).Nodup) {q : Option ℚ} (own : (name,q.map number) ∈ fields) :
    optional (present (wireFields fields)) name p.float = .ok q :=
  readFloat (by
    rw [wireLookup nodup own]
    cases q <;> rfl)

theorem recordWire {names : Dict → List String} {build : Dict → Checked α} {a : α}
    (known : ∀ d, ∀ k ∈ keys fields, k ∈ names d) (built : build (present (wireFields fields)) = .ok a) :
    record names build (withoutBlanks (.obj (present fields))) = .ok a := by
  rw [wirePresent]
  refine recordOk built (fun m member => known _ m.1 ?_)
  rw [← wireKeys]
  exact (presentKeys _).subset (List.mem_map_of_mem member)

end Checked

/-! What comes back: each text that is blank is unset. -/

def ShippingGood.inked (g : ShippingGood) : ShippingGood := ⟨Moadian.inked g.sgid,Moadian.inked g.sgt⟩

def InvoiceHeader.inked (h : InvoiceHeader) : InvoiceHeader :=
  { h with
    taxid := if isBlank h.taxid then "" else h.taxid
    inno := Moadian.inked h.inno, irtaxid := Moadian.inked h.irtaxid, scln := Moadian.inked h.scln
    billid := Moadian.inked h.billid, tins := Moadian.inked h.tins, bpc := Moadian.inked h.bpc
    scc := Moadian.inked h.scc, sbc := Moadian.inked h.sbc, bid := Moadian.inked h.bid
    tinb := Moadian.inked h.tinb, bbc := Moadian.inked h.bbc, bpn := Moadian.inked h.bpn
    crn := Moadian.inked h.crn, cdcn := Moadian.inked h.cdcn, tinc := Moadian.inked h.tinc
    lno := Moadian.inked h.lno, lrno := Moadian.inked h.lrno, ocu := Moadian.inked h.ocu
    oci := Moadian.inked h.oci, dco := Moadian.inked h.dco, dci := Moadian.inked h.dci
    tid := Moadian.inked h.tid, rid := Moadian.inked h.rid, cno := Moadian.inked h.cno
    did := Moadian.inked h.did, sg := h.sg.map (·.map ShippingGood.inked), asn := Moadian.inked h.asn
    in_ := Moadian.inked h.in_, an := Moadian.inked h.an, nti1 := Moadian.inked h.nti1, nti2 := Moadian.inked h.nti2 }

def InvoiceBodyItem.inked (item : InvoiceBodyItem) : InvoiceBodyItem :=
  { item with
    sstt := Moadian.inked item.sstt, mu := Moadian.inked item.mu, cut := Moadian.inked item.cut
    odt := Moadian.inked item.odt, olt := Moadian.inked item.olt, bsrn := Moadian.inked item.bsrn
    hs := Moadian.inked item.hs }

def InvoicePayment.inked (p : InvoicePayment) : InvoicePayment :=
  { p with
    iinn := Moadian.inked p.iinn, acn := Moadian.inked p.acn, trmn := Moadian.inked p.trmn, trn := Moadian.inked p.trn
    pcn := Moadian.inked p.pcn, pid := Moadian.inked p.pid, vatpid := Moadian.inked p.vatpid
    vatbid := Moadian.inked p.vatbid }

def Invoice.inked (inv : Invoice) : Invoice where
  header := inv.header.inked
  body := inv.body.map InvoiceBodyItem.inked
  payments := inv.payments.map InvoicePayment.inked
  extension := inv.extension.map (·.map withoutBlanksMembers)

section Back
open Checked
variable (p : Conversions) (u : Persian.Unicode)

theorem goodBack (g : ShippingGood) : ShippingGood.validate p (withoutBlanks (.obj g.modelDump)) = .ok g.inked := by
  refine recordWire (fun _ _ member => member) ?_
  exact seqOk (mapOk _ (wireText (goodKeys g) (by simp [ShippingGood.fields])))
    (wireText (goodKeys g) (by simp [ShippingGood.fields]))

theorem paymentKeys (q : InvoicePayment) : (q.fields.map Prod.fst).Nodup := by
  simp only [InvoicePayment.fields,List.map_cons,List.map_nil]
  decide

theorem paymentBack (q : InvoicePayment) : InvoicePayment.validate p (withoutBlanks (.obj q.modelDump)) = .ok q.inked := by
  have keys_ := paymentKeys q
  refine recordWire (fun _ _ member => member) ?_
  unfold InvoicePayment.inked
  repeat' with_reducible first
    | refine seqOk ?_ ?_
    | refine mapOk _ ?_
    | refine wireText keys_ ?_
    | refine wireInt keys_ ?_
  all_goals
    unfold InvoicePayment.fields
    repeat first | exact List.Mem.head _ | refine List.Mem.tail _ ?_

theorem goodsBack {fields : List (String × Option Json)} (keys_ : (fields.map Prod.fst).Nodup)
    {goods : Option (List ShippingGood)} {name : String}
    (own : (name,goods.map (fun goods => .arr (goods.map (fun g => .obj g.modelDump)))) ∈ fields) :
    optional (present (wireFields fields)) name (listOf (ShippingGood.validate p)) =
      .ok (goods.map (·.map ShippingGood.inked)) := by
  rw [Checked.optional,fieldOr,wireLookup keys_ own]
  cases goods with
  | none => rfl
  | some goods =>
    have shown : onWire ((some goods).map (fun goods => Json.arr (goods.map (fun g => .obj g.modelDump)))) =
        some (.arr (goods.map (fun g => withoutBlanks (.obj g.modelDump)))) := by
      simp [onWire,blankString,withoutBlanks,withoutBlanksItemsMap]
    rw [shown]
    exact underOk.mpr (mapOk some (eachOk (fun g _ => goodBack p g) 0))

theorem aliasBack (h : InvoiceHeader) :
    InvoiceHeader.aliased p (present (wireFields h.fields)) = .ok (inked h.in_) := by
  have keys_ := headerKeys h
  have alias_ := @wireLookup h.fields keys_ "in" (h.in_.map .str) (by simp [InvoiceHeader.fields])
  rw [onWireText] at alias_
  unfold InvoiceHeader.aliased
  rw [alias_]
  cases given : inked h.in_ with
  | some s =>
    rw [← given]
    exact wireText keys_ (by simp [InvoiceHeader.fields,given])
  | none =>
    have unknown : (present (wireFields h.fields)).lookup "in_" = none := by
      refine lookupNone (fun member => ?_)
      have known := (presentKeys _).subset member
      rw [wireKeys] at known
      revert known
      simp [keys,InvoiceHeader.fields]
    simp only [Option.map_none,Option.isSome_none,Bool.false_eq_true,if_false,Checked.optional,fieldOr,unknown]

theorem onWireInt (n : Option Int) : onWire (n.map .int) = n.map .int := by cases n <;> rfl

theorem onWireNumber (q : Option ℚ) : onWire (q.map number) = q.map number := by cases q <;> rfl

theorem headerInked (h : InvoiceHeader) : h.inked.fields.filter (fun f => f.1 ∉ InvoiceHeader.apart) =
    (wireFields h.fields).filter (fun f => f.1 ∉ InvoiceHeader.apart) := by
  simp only [InvoiceHeader.fields,InvoiceHeader.inked,wireFields,List.map_cons,List.map_nil,onWireText,onWireInt,onWireNumber]
  rfl

theorem headerBack (h : InvoiceHeader) : InvoiceHeader.validate p (withoutBlanks (.obj h.modelDump)) = .ok h.inked := by
  have keys_ := headerKeys h
  have taxid : fieldOr (present (wireFields h.fields)) "taxid" "" p.str = .ok h.inked.taxid := by
    rw [fieldOr,wireLookup keys_ (v := some (.str h.taxid)) (by simp [InvoiceHeader.fields]),InvoiceHeader.inked]
    cases blank : isBlank h.taxid with
    | true => simp [onWire,blankString,blank]
    | false =>
      simp only [onWire,Option.bind_some,blankString,blank,Bool.false_eq_true,if_false,withoutBlanks]
      exact underOk.mpr (p.strOwn _)
  refine recordWire (fun d k member => List.mem_append_left _ member) ?_
  refine InvoiceHeader.built (fun name v member other => ?_) taxid (goodsBack p keys_ (by simp [InvoiceHeader.fields]))
    (aliasBack p h)
  have kept : (name,v) ∈ (wireFields h.fields).filter (fun f => f.1 ∉ InvoiceHeader.apart) :=
    headerInked h ▸ List.mem_filter.mpr ⟨member,by simpa using other⟩
  rw [lookupPresent (by rw [wireKeys]; exact keys_),lookupOwn (by rw [wireKeys]; exact keys_) (List.mem_filter.mp kept).1]
  rfl

/-! A line comes back when its code is there to come back, and what was folded once is
folded again to itself. -/
structure Folded (item : InvoiceBodyItem) : Prop where
  sstid : Persian.foldDigits u item.sstid = item.sstid
  mu : ∀ mu, item.mu = some mu → Persian.foldDigits u mu = mu

theorem itemBack {item : InvoiceBodyItem} (folded : Folded u item) (named : isBlank item.sstid = false) :
    InvoiceBodyItem.validate p u (withoutBlanks (.obj item.modelDump)) = .ok item.inked := by
  have keys_ := bodyKeys item
  refine recordWire (fun _ _ member => member) ?_
  have sstid : field (present (wireFields item.fields)) "sstid" (fun v => p.str (asciiDigits u v)) = .ok item.sstid := by
    rw [field,wireLookup keys_ (v := some (.str item.sstid)) (by simp [InvoiceBodyItem.fields])]
    simp only [onWire,Option.bind_some,blankString,named,Bool.false_eq_true,if_false,withoutBlanks]
    refine underOk.mpr ?_
    rw [asciiDigits,folded.sstid]
    exact p.strOwn _
  have mu : fieldOr (present (wireFields item.fields)) "mu" none (fun v => nullable p.str (asciiDigits u v)) =
      .ok (inked item.mu) := by
    rw [fieldOr,wireLookup keys_ (v := item.mu.map .str) (by simp [InvoiceBodyItem.fields]),onWireText]
    cases given : inked item.mu with
    | none => rfl
    | some s =>
      have same : item.mu = some s := (Option.filter_eq_some_iff.mp given).1
      refine underOk.mpr ?_
      rw [asciiDigits,folded.mu s same]
      exact mapOk some (p.strOwn s)
  unfold InvoiceBodyItem.build InvoiceBodyItem.inked
  repeat' with_reducible first
    | refine seqOk ?_ ?_
    | refine mapOk _ ?_
    | exact sstid
    | exact mu
    | refine wireText keys_ ?_
    | refine wireInt keys_ ?_
    | refine wireFloat keys_ ?_
  all_goals
    unfold InvoiceBodyItem.fields
    repeat first | exact List.Mem.head _ | refine List.Mem.tail _ ?_

theorem itemLost {item : InvoiceBodyItem} (blank : isBlank item.sstid = true) (back : InvoiceBodyItem) :
    InvoiceBodyItem.validate p u (withoutBlanks (.obj item.modelDump)) ≠ .ok back := by
  have lost : Holds (fun _ => False) (field (present (wireFields item.fields)) "sstid" (fun v => p.str (asciiDigits u v))) := by
    rw [field,wireLookup (bodyKeys item) (v := some (.str item.sstid)) (by simp [InvoiceBodyItem.fields])]
    simp only [onWire,Option.bind_some,blankString,blank,if_true]
    exact fun s never => by cases never
  have unbuilt : Holds (fun _ => False) (InvoiceBodyItem.build p u (present (wireFields item.fields))) := by
    unfold InvoiceBodyItem.build
    repeat with_reducible refine holdsAside ?_
    exact holdsMap lost (fun _ never => never.elim)
  intro whole
  rw [InvoiceBodyItem.modelDump,wirePresent] at whole
  exact unbuilt back (recordBuilt whole)

theorem textFolded {v : Json} {s : String} (text : p.str (asciiDigits u v) = .ok s) : Persian.foldDigits u s = s := by
  have own := p.strOnly _ _ text
  cases v with
  | str t =>
    cases own
    exact Persian.foldTwice u t
  | null | bool b | int n | float f | arr items | obj d => cases own

theorem sstidFolded (d : Dict) :
    Holds (fun s => Persian.foldDigits u s = s) (field d "sstid" (fun v => p.str (asciiDigits u v))) := by
  intro s whole
  rw [field] at whole
  split at whole
  · exact textFolded p u (underOk.mp whole)
  · cases whole

theorem muFolded (d : Dict) : Holds (fun mu => ∀ s, mu = some s → Persian.foldDigits u s = s)
    (fieldOr d "mu" none (fun v => nullable p.str (asciiDigits u v))) := by
  intro mu whole s given
  subst given
  rw [fieldOr] at whole
  split at whole
  · have inner := underOk.mp whole
    unfold nullable at inner
    split at inner
    · cases inner
    · obtain ⟨t,text,same⟩ := mapCases inner
      cases same
      exact textFolded p u text
  · cases whole

theorem itemFolded (v : Json) : Holds (Folded u) (InvoiceBodyItem.validate p u v) := by
  refine recordHolds (fun d => ?_) v
  unfold InvoiceBodyItem.build
  iterate 32 with_reducible refine holdsAside ?_
  refine holdsSeq (muFolded p u d) ?_
  refine holdsAside (holdsMap (sstidFolded p u d) (fun sstid folded sstt mu folded' => ?_))
  intros
  exact ⟨folded,folded'⟩

/-! The invoice as a whole. -/

theorem invoiceKeys (inv : Invoice) : (inv.fields.map Prod.fst).Nodup := by
  simp only [Invoice.fields,List.map_cons,List.map_nil]
  decide

theorem onWireItems {α : Type} (dump : α → Dict) (xs : List α) : onWire (some (.arr (xs.map (fun x => .obj (dump x))))) =
    some (.arr (xs.map (fun x => withoutBlanks (.obj (dump x))))) := by
  simp [onWire,blankString,withoutBlanks,withoutBlanksItemsMap]

def AllNamed (inv : Invoice) : Prop := ∀ item ∈ inv.body, isBlank item.sstid = false

def AllFolded (inv : Invoice) : Prop := ∀ item ∈ inv.body, Folded u item

theorem invoiceBack {inv : Invoice} (folded : AllFolded u inv) (named : AllNamed inv) :
    Invoice.modelValidate p u inv.toWireDict = .ok inv.inked := by
  have keys_ := invoiceKeys inv
  refine recordWire (fun _ _ member => member) ?_
  have header : field (present (wireFields inv.fields)) "header" (InvoiceHeader.validate p) = .ok inv.header.inked := by
    rw [field,wireLookup keys_ (v := some (.obj inv.header.modelDump)) (by simp [Invoice.fields])]
    exact underOk.mpr (headerBack p inv.header)
  have body : field (present (wireFields inv.fields)) "body" (listOf (InvoiceBodyItem.validate p u)) =
      .ok (inv.body.map InvoiceBodyItem.inked) := by
    rw [field,wireLookup keys_ (v := some (.arr (inv.body.map (fun item => .obj item.modelDump)))) (by simp [Invoice.fields]),
      onWireItems]
    exact underOk.mpr (eachOk (fun item member => itemBack p u (folded item member) (named item member)) 0)
  have payments : fieldOr (present (wireFields inv.fields)) "payments" [] (listOf (InvoicePayment.validate p)) =
      .ok (inv.payments.map InvoicePayment.inked) := by
    rw [fieldOr,wireLookup keys_ (v := some (.arr (inv.payments.map (fun q => .obj q.modelDump)))) (by simp [Invoice.fields]),
      onWireItems]
    exact underOk.mpr (eachOk (fun q _ => paymentBack p q) 0)
  have extension : Checked.optional (present (wireFields inv.fields)) "extension" (listOf Checked.dict) =
      .ok (inv.extension.map (·.map withoutBlanksMembers)) := by
    rw [Checked.optional,fieldOr,wireLookup keys_ (v := inv.extension.map (fun xs => .arr (xs.map .obj))) (by simp [Invoice.fields])]
    cases inv.extension with
    | none => rfl
    | some xs =>
      rw [Option.map_some,onWireItems (fun d => d)]
      have same : ∀ d ∈ xs, Checked.dict (withoutBlanks (.obj d)) = .ok (withoutBlanksMembers d) := fun _ _ => rfl
      exact underOk.mpr (mapOk some (eachOk same 0))
  exact seqOk (seqOk (seqOk (mapOk _ header) body) payments) extension

theorem bodyNamed {inv : Invoice} {back : Invoice} (whole : Invoice.modelValidate p u inv.toWireDict = .ok back) :
    AllNamed inv := by
  rw [Invoice.toWireDict,Invoice.modelDump,wirePresent] at whole
  have built := recordBuilt whole
  have body : Holds (fun _ => AllNamed inv) (field (present (wireFields inv.fields)) "body"
      (listOf (InvoiceBodyItem.validate p u))) := by
    intro lines read item member
    rw [field,wireLookup (invoiceKeys inv) (v := some (.arr (inv.body.map (fun item => .obj item.modelDump))))
      (by simp [Invoice.fields]),onWireItems] at read
    obtain ⟨back,accepted⟩ := eachAccepted (underOk.mp read) _ (List.mem_map_of_mem member)
    cases blank : isBlank item.sstid with
    | false => rfl
    | true => exact absurd accepted (itemLost p u blank back)
  have held : Holds (fun _ => AllNamed inv) (Invoice.build p u (present (wireFields inv.fields))) := by
    unfold Invoice.build
    refine holdsAside (holdsAside (holdsSeq body ?_))
    exact fun _ _ _ named _ _ => named
  exact held back built

theorem goodWire (g : ShippingGood) : withoutBlanks (.obj g.inked.modelDump) = withoutBlanks (.obj g.modelDump) := by
  unfold ShippingGood.modelDump
  rw [wirePresent,wirePresent]
  simp only [ShippingGood.fields,ShippingGood.inked,wireFields,List.map_cons,List.map_nil,onWireInked]

theorem paymentWire (q : InvoicePayment) : withoutBlanks (.obj q.inked.modelDump) = withoutBlanks (.obj q.modelDump) := by
  unfold InvoicePayment.modelDump
  rw [wirePresent,wirePresent]
  simp only [InvoicePayment.fields,InvoicePayment.inked,wireFields,List.map_cons,List.map_nil,onWireInked]

theorem itemWire (item : InvoiceBodyItem) :
    withoutBlanks (.obj item.inked.modelDump) = withoutBlanks (.obj item.modelDump) := by
  unfold InvoiceBodyItem.modelDump
  rw [wirePresent,wirePresent]
  simp only [InvoiceBodyItem.fields,InvoiceBodyItem.inked,wireFields,List.map_cons,List.map_nil,onWireInked]

theorem headerWire (h : InvoiceHeader) : withoutBlanks (.obj h.inked.modelDump) = withoutBlanks (.obj h.modelDump) := by
  have taxid : onWire (some (.str (if isBlank h.taxid then "" else h.taxid))) = onWire (some (.str h.taxid)) := by
    cases blank : isBlank h.taxid with
    | true => simp [onWire,blankString,blank,show isBlank "" = true from rfl]
    | false => simp
  have goods : onWire ((h.sg.map (·.map ShippingGood.inked)).map (fun goods => .arr (goods.map (fun g => .obj g.modelDump)))) =
      onWire (h.sg.map (fun goods => .arr (goods.map (fun g => .obj g.modelDump)))) := by
    cases h.sg with
    | none => rfl
    | some goods =>
      rw [Option.map_some,Option.map_some,Option.map_some,onWireItems,onWireItems,List.map_map]
      exact congrArg (fun xs => some (Json.arr xs)) (List.map_congr_left (fun g _ => goodWire g))
  unfold InvoiceHeader.modelDump
  rw [wirePresent,wirePresent]
  simp only [InvoiceHeader.fields,InvoiceHeader.inked,wireFields,List.map_cons,List.map_nil,onWireInked,taxid,goods]

theorem invoiceWire (inv : Invoice) : inv.inked.toWireDict = inv.toWireDict := by
  have header : onWire (some (.obj inv.header.inked.modelDump)) = onWire (some (.obj inv.header.modelDump)) :=
    congrArg some (headerWire inv.header)
  have body : onWire (some (.arr ((inv.body.map InvoiceBodyItem.inked).map (fun item => .obj item.modelDump)))) =
      onWire (some (.arr (inv.body.map (fun item => .obj item.modelDump)))) := by
    rw [onWireItems,onWireItems,List.map_map]
    exact congrArg (fun xs => some (Json.arr xs)) (List.map_congr_left (fun item _ => itemWire item))
  have payments : onWire (some (.arr ((inv.payments.map InvoicePayment.inked).map (fun q => .obj q.modelDump)))) =
      onWire (some (.arr (inv.payments.map (fun q => .obj q.modelDump)))) := by
    rw [onWireItems,onWireItems,List.map_map]
    exact congrArg (fun xs => some (Json.arr xs)) (List.map_congr_left (fun q _ => paymentWire q))
  have extension : onWire ((inv.extension.map (·.map withoutBlanksMembers)).map (fun xs => .arr (xs.map .obj))) =
      onWire (inv.extension.map (fun xs => .arr (xs.map .obj))) := by
    cases inv.extension with
    | none => rfl
    | some xs =>
      rw [Option.map_some,Option.map_some,Option.map_some,onWireItems (fun d => d),onWireItems (fun d => d),List.map_map]
      exact congrArg (fun xs => some (Json.arr xs)) (List.map_congr_left (fun d _ => blanksTwice (.obj d)))
  unfold Invoice.toWireDict Invoice.modelDump
  rw [wirePresent,wirePresent]
  simp only [Invoice.fields,Invoice.inked,wireFields,List.map_cons,List.map_nil,header,body,payments,extension]

/- The invoices there are: one that has been checked, and one whose amounts have then
been filled in. -/
inductive Admitted : Invoice → Prop where
  | checked {v : Json} {inv : Invoice} (accepted : Invoice.modelValidate p u v = .ok inv) : Admitted inv
  | refilled {inv : Invoice} (r : Arithmetic.Rounding) (pattern : Int) (before : Admitted inv) :
      Admitted (Arithmetic.recompute r inv pattern)

theorem admittedFolded {inv : Invoice} (admitted : Admitted p u inv) : AllFolded u inv := by
  induction admitted with
  | checked accepted =>
    have held : ∀ v, Holds (AllFolded u) (Invoice.modelValidate p u v) := by
      refine recordHolds (fun d => ?_)
      have body : Holds (fun lines => ∀ item ∈ lines, Folded u item)
          (field d "body" (listOf (InvoiceBodyItem.validate p u))) := by
        intro lines whole
        rw [field] at whole
        split at whole
        · exact listHolds (itemFolded p u) _ lines (underOk.mp whole)
        · cases whole
      unfold Invoice.build
      refine holdsAside (holdsAside (holdsSeq body ?_))
      intro build built lines folded
      obtain ⟨header,_,rfl⟩ := mapCases built
      exact fun _ _ => folded
    exact held _ _ accepted
  | refilled r pattern before ih =>
    intro item member
    obtain ⟨old,own,rfl⟩ := List.mem_map.mp member
    exact ⟨(ih old own).sstid,(ih old own).mu⟩

def Reposts (inv : Invoice) : Prop :=
  ∃ back, Invoice.modelValidate p u inv.toWireDict = .ok back ∧ back.toWireDict = inv.toWireDict

theorem reposts (p : Conversions) (u : Persian.Unicode) (inv : Invoice) (admitted : Admitted p u inv) :
    Reposts p u inv ↔ ∀ item ∈ inv.body, isBlank item.sstid = false := by
  constructor
  · rintro ⟨back,accepted,_⟩
    exact bodyNamed p u accepted
  · exact fun named => ⟨inv.inked,invoiceBack p u (admittedFolded p u admitted) named,invoiceWire inv⟩

end Back

/-! Conversions that take a value of the type alone, and a text that is left as it is. -/
namespace Example

def strict : Conversions where
  int v := match v with
    | .int n => .ok n
    | _ => Checked.fault "int_type"
  float v := match v with
    | .float (.finite q) => .ok q
    | _ => Checked.fault "float_type"
  str v := match v with
    | .str s => .ok s
    | _ => Checked.fault "string_type"
  intOwn _ := rfl
  floatOwn _ := rfl
  strOwn _ := rfl
  strOnly v s own := by
    split at own
    · cases own
      rfl
    · cases own

def composed : Persian.Unicode := ⟨id,fun _ => rfl,fun _ _ => rfl⟩

end Example

theorem repostsSale : Reposts Example.strict Example.composed Example.invoice ↔
    ∀ item ∈ Example.invoice.body, isBlank item.sstid = false :=
  reposts Example.strict Example.composed Example.invoice (.checked (v := Example.invoice.toWireDict) (by rfl))

def uncoded : Json := .obj [("header",.obj [("indatim",.int 1683997837988), ("ins",.int 1)]),
  ("body",.arr [.obj [("sstid",.str "")]])]

theorem uncodedLost : ∃ inv, Invoice.modelValidate Example.strict Example.composed uncoded = .ok inv ∧
    ¬ Reposts Example.strict Example.composed inv := by
  refine ⟨⟨{ indatim := 1683997837988, ins := 1 },[{ sstid := "" }],[],none⟩,rfl,?_⟩
  rintro ⟨back,accepted,_⟩
  have named := bodyNamed _ _ accepted { sstid := "" } (by simp)
  contradiction

end Moadian
