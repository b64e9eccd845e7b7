import Moadian.Checked
import Moadian.Models.Invoice
import Moadian.Persian

/-! `Invoice.model_validate`. What a number field makes of other values is a parameter;
a value of the type itself is taken as it is, and no other JSON value is a text. -/
namespace Moadian
open Checked Persian

structure Conversions where
  int : Json → Checked Int
  float : Json → Checked ℚ
  str : Json → Checked String
  intOwn : ∀ n, int (.int n) = .ok n
  floatOwn : ∀ q, float (number q) = .ok q
  strOwn : ∀ s, str (.str s) = .ok s
  strOnly : ∀ v s, str v = .ok s → v = .str s

def keys (fields : List (String × Option Json)) : List String := fields.map Prod.fst

section Validate
variable (p : Conversions) (u : Unicode)

def ShippingGood.validate : Json → Checked ShippingGood :=
  record (fun _ => keys (ShippingGood.fields {})) (fun d =>
    ShippingGood.mk <$> optional d "sgid" p.str <*> optional d "sgt" p.str)

/- `in_` is named by its alias, or by its own name when the alias is not used. -/
def InvoiceHeader.names (d : Dict) : List String :=
  keys (InvoiceHeader.fields { indatim := 0, ins := 0 }) ++ (if (d.lookup "in").isSome then [] else ["in_"])

def InvoiceHeader.aliased (d : Dict) : Checked (Option String) :=
  optional d (if (d.lookup "in").isSome then "in" else "in_") p.str

def InvoiceHeader.build (d : Dict) : Checked InvoiceHeader :=
  InvoiceHeader.mk <$> fieldOr d "taxid" "" p.str <*> field d "indatim" p.int <*> field d "ins" p.int <*>
    optional d "indati2m" p.int <*> optional d "inty" p.int <*> optional d "ft" p.int <*>
    optional d "inno" p.str <*> optional d "irtaxid" p.str <*> optional d "scln" p.str <*>
    optional d "setm" p.int <*> optional d "inp" p.int <*>
    optional d "billid" p.str <*> optional d "tins" p.str <*> optional d "bpc" p.str <*> optional d "scc" p.str <*>
    optional d "sbc" p.str <*> optional d "cap" p.int <*> optional d "bid" p.str <*>
    optional d "insp" p.int <*> optional d "tvop" p.int <*> optional d "tax17" p.int <*>
    optional d "tprdis" p.int <*> optional d "tdis" p.int <*> optional d "tadis" p.int <*>
    optional d "tvam" p.int <*> optional d "todam" p.int <*> optional d "tbill" p.int <*> optional d "tob" p.int <*>
    optional d "tinb" p.str <*> optional d "bbc" p.str <*> optional d "bpn" p.str <*> optional d "crn" p.str <*>
    optional d "cdcn" p.str <*> optional d "cdcd" p.int <*> optional d "tonw" p.float <*> optional d "torv" p.int <*>
    optional d "tocv" p.float <*> optional d "tinc" p.str <*> optional d "lno" p.str <*> optional d "lrno" p.str <*>
    optional d "ocu" p.str <*> optional d "oci" p.str <*> optional d "dco" p.str <*> optional d "dci" p.str <*>
    optional d "tid" p.str <*> optional d "rid" p.str <*> optional d "lt" p.int <*> optional d "cno" p.str <*>
    optional d "did" p.str <*> optional d "sg" (listOf (ShippingGood.validate p)) <*> optional d "asn" p.str <*>
    optional d "asd" p.int <*> aliased p d <*> optional d "an" p.str <*> optional d "insr" p.int <*>
    optional d "nti1" p.str <*> optional d "nti2" p.str

def InvoiceHeader.validate : Json → Checked InvoiceHeader := record names (build p)

def asciiDigits : Json → Json
  | .str s => .str (foldDigits u s)
  | v => v

def InvoiceBodyItem.build (d : Dict) : Checked InvoiceBodyItem :=
  InvoiceBodyItem.mk <$> field d "sstid" (fun v => p.str (asciiDigits u v)) <*> optional d "sstt" p.str <*>
    fieldOr d "mu" none (fun v => nullable p.str (asciiDigits u v)) <*>
    optional d "am" p.float <*> optional d "fee" p.float <*> optional d "cfee" p.float <*> optional d "cut" p.str <*>
    optional d "exr" p.int <*> optional d "prdis" p.int <*> optional d "dis" p.int <*> optional d "adis" p.int <*>
    optional d "vra" p.float <*> optional d "vam" p.int <*> optional d "odt" p.str <*> optional d "odr" p.float <*>
    optional d "odam" p.int <*> optional d "olt" p.str <*> optional d "olr" p.float <*> optional d "olam" p.int <*>
    optional d "consfee" p.int <*> optional d "spro" p.int <*> optional d "bros" p.int <*>
    optional d "tcpbs" p.int <*> optional d "cop" p.int <*> optional d "bsrn" p.str <*> optional d "vop" p.int <*>
    optional d "tsstam" p.int <*> optional d "nw" p.float <*> optional d "ssrv" p.int <*>
    optional d "sscv" p.float <*> optional d "cui" p.float <*> optional d "hs" p.str <*> optional d "cpr" p.float <*>
    optional d "sovat" p.int <*> optional d "vba" p.float

def InvoiceBodyItem.validate : Json → Checked InvoiceBodyItem :=
  record (fun _ => keys (InvoiceBodyItem.fields { sstid := "" })) (build p u)

def InvoicePayment.validate : Json → Checked InvoicePayment :=
  record (fun _ => keys (InvoicePayment.fields {})) (fun d =>
    InvoicePayment.mk <$> optional d "iinn" p.str <*> optional d "acn" p.str <*> optional d "trmn" p.str <*>
      optional d "trn" p.str <*> optional d "pcn" p.str <*> optional d "pid" p.str <*> optional d "vatpid" p.str <*>
      optional d "vatbid" p.str <*> optional d "pdt" p.int <*> optional d "pmt" p.int <*> optional d "pv" p.int)

def Invoice.build (d : Dict) : Checked Invoice :=
  Invoice.mk <$> field d "header" (InvoiceHeader.validate p) <*>
    field d "body" (listOf (InvoiceBodyItem.validate p u)) <*>
    fieldOr d "payments" [] (listOf (InvoicePayment.validate p)) <*>
    optional d "extension" (listOf Checked.dict)

def Invoice.modelValidate : Json → Checked Invoice :=
  record (fun _ => ["header","body","payments","extension"]) (build p u)

end Validate

/-! A field that is there, of the type it should have. -/

section Read
variable {p : Conversions} {name : String}

theorem readText {d : Dict} {s : Option String} (own : d.lookup name = s.map .str) : Checked.optional d name p.str = .ok s := by
  rw [Checked.optional,fieldOr,own]
  cases s with
  | none => rfl
  | some s => exact underOk.mpr (mapOk some (p.strOwn s))

theorem readInt {d : Dict} {n : Option Int} (own : d.lookup name = n.map .int) : Checked.optional d name p.int = .ok n := by
  rw [Checked.optional,fieldOr,own]
  cases n with
  | none => rfl
  | some n => exact underOk.mpr (mapOk some (p.intOwn n))

theorem readFloat {d : Dict} {q : Option ℚ} (own : d.lookup name = q.map number) : Checked.optional d name p.float = .ok q := by
  rw [Checked.optional,fieldOr,own]
  cases q with
  | none => rfl
  | some q => exact underOk.mpr (mapOk some (p.floatOwn q))

def InvoiceHeader.apart : List String := ["taxid","sg","in"]

theorem InvoiceHeader.built {d : Dict} {h : InvoiceHeader} (own : ∀ name v, (name,v) ∈ h.fields → name ∉ InvoiceHeader.apart → d.lookup name = v)
    (taxid : fieldOr d "taxid" "" p.str = .ok h.taxid)
    (goods : Checked.optional d "sg" (listOf (ShippingGood.validate p)) = .ok h.sg)
    (alias_ : InvoiceHeader.aliased p d = .ok h.in_) : InvoiceHeader.build p d = .ok h := by
  have indatim : field d "indatim" p.int = .ok h.indatim := by
    exact fieldOk (own "indatim" _ (by simp [InvoiceHeader.fields]) (by decide)) (p.intOwn _)
  have ins : field d "ins" p.int = .ok h.ins := by
    exact fieldOk (own "ins" _ (by simp [InvoiceHeader.fields]) (by decide)) (p.intOwn _)
  have text : ∀ name (s : Option String), (name,s.map .str) ∈ h.fields → name ∉ InvoiceHeader.apart → Checked.optional d name p.str = .ok s :=
    fun name s member other => readText (own name _ member other)
  have int : ∀ name (n : Option Int), (name,n.map .int) ∈ h.fields → name ∉ InvoiceHeader.apart → Checked.optional d name p.int = .ok n :=
    fun name n member other => readInt (own name _ member other)
  have float : ∀ name (q : Option ℚ), (name,q.map number) ∈ h.fields → name ∉ InvoiceHeader.apart →
      Checked.optional d name p.float = .ok q := fun name q member other => readFloat (own name _ member other)
  cases h
  unfold InvoiceHeader.build
  repeat' with_reducible first
    | refine seqOk ?_ ?_
    | refine mapOk _ ?_
    | exact taxid
    | exact indatim
    | exact ins
    | exact goods
    | exact alias_
    | refine text _ _ ?_ ?_
    | refine int _ _ ?_ ?_
    | refine float _ _ ?_ ?_
  all_goals first
    | decide
    | unfold InvoiceHeader.fields
      repeat first | exact List.Mem.head _ | refine List.Mem.tail _ ?_

end Read
end Moadian
