import Moadian.Json

/-! The invoice payload. Field names are the wire names; an integer field of the
source is an integer here, a finite float field a rational. `extra="forbid"` and
`allow_inf_nan=False` are why no other field and no other number can occur. -/
namespace Moadian
open Json

-- A `float` field: finite by `allow_inf_nan=False`.
def number (q : ℚ) : Json := .float (.finite q)

structure ShippingGood where
  (sgid sgt : Option String := none)
  deriving Repr

def ShippingGood.fields (g : ShippingGood) : List (String × Option Json) := [
    ("sgid",g.sgid.map .str), ("sgt",g.sgt.map .str)]

def ShippingGood.modelDump (g : ShippingGood) : Dict := present g.fields

structure InvoiceHeader where
  taxid : String := ""
  (indatim ins : Int)
  (indati2m inty ft : Option Int := none)
  (inno irtaxid scln : Option String := none)
  (setm inp : Option Int := none)
  (billid tins bpc scc sbc : Option String := none)
  cap : Option Int := none
  bid : Option String := none
  (insp tvop tax17 tprdis tdis tadis tvam todam tbill tob : Option Int := none)
  (tinb bbc bpn crn cdcn : Option String := none)
  cdcd : Option Int := none
  tonw : Option ℚ := none
  torv : Option Int := none
  tocv : Option ℚ := none
  (tinc lno lrno ocu oci dco dci tid rid : Option String := none)
  lt : Option Int := none
  (cno did : Option String := none)
  sg : Option (List ShippingGood) := none
  asn : Option String := none
  asd : Option Int := none
  in_ : Option String := none
  an : Option String := none
  insr : Option Int := none
  (nti1 nti2 : Option String := none)
  deriving Repr

def InvoiceHeader.fields (h : InvoiceHeader) : List (String × Option Json) := [
    ("taxid",some (.str h.taxid)), ("indatim",some (.int h.indatim)), ("ins",some (.int h.ins)),
    ("indati2m",h.indati2m.map .int), ("inty",h.inty.map .int), ("ft",h.ft.map .int),
    ("inno",h.inno.map .str), ("irtaxid",h.irtaxid.map .str), ("scln",h.scln.map .str),
    ("setm",h.setm.map .int), ("inp",h.inp.map .int), ("billid",h.billid.map .str),
    ("tins",h.tins.map .str), ("bpc",h.bpc.map .str), ("scc",h.scc.map .str),
    ("sbc",h.sbc.map .str), ("cap",h.cap.map .int), ("bid",h.bid.map .str),
    ("insp",h.insp.map .int), ("tvop",h.tvop.map .int), ("tax17",h.tax17.map .int),
    ("tprdis",h.tprdis.map .int), ("tdis",h.tdis.map .int), ("tadis",h.tadis.map .int),
    ("tvam",h.tvam.map .int), ("todam",h.todam.map .int), ("tbill",h.tbill.map .int),
    ("tob",h.tob.map .int), ("tinb",h.tinb.map .str), ("bbc",h.bbc.map .str),
    ("bpn",h.bpn.map .str), ("crn",h.crn.map .str), ("cdcn",h.cdcn.map .str),
    ("cdcd",h.cdcd.map .int), ("tonw",h.tonw.map number), ("torv",h.torv.map .int),
    ("tocv",h.tocv.map number), ("tinc",h.tinc.map .str), ("lno",h.lno.map .str),
    ("lrno",h.lrno.map .str), ("ocu",h.ocu.map .str), ("oci",h.oci.map .str),
    ("dco",h.dco.map .str), ("dci",h.dci.map .str), ("tid",h.tid.map .str), ("rid",h.rid.map .str),
    ("lt",h.lt.map .int), ("cno",h.cno.map .str), ("did",h.did.map .str),
    ("sg",h.sg.map (fun goods => .arr (goods.map (fun g => .obj g.modelDump)))),
    ("asn",h.asn.map .str), ("asd",h.asd.map .int), ("in",h.in_.map .str), ("an",h.an.map .str),
    ("insr",h.insr.map .int), ("nti1",h.nti1.map .str), ("nti2",h.nti2.map .str)]

def InvoiceHeader.modelDump (h : InvoiceHeader) : Dict := present h.fields

structure InvoiceBodyItem where
  sstid : String
  (sstt mu : Option String := none)
  (am fee cfee : Option ℚ := none)
  cut : Option String := none
  (exr prdis dis adis : Option Int := none)
  vra : Option ℚ := none
  vam : Option Int := none
  odt : Option String := none
  odr : Option ℚ := none
  odam : Option Int := none
  olt : Option String := none
  olr : Option ℚ := none
  (olam consfee spro bros tcpbs cop : Option Int := none)
  bsrn : Option String := none
  (vop tsstam : Option Int := none)
  nw : Option ℚ := none
  ssrv : Option Int := none
  (sscv cui : Option ℚ := none)
  hs : Option String := none
  cpr : Option ℚ := none
  sovat : Option Int := none
  vba : Option ℚ := none
  deriving Repr

def InvoiceBodyItem.fields (item : InvoiceBodyItem) : List (String × Option Json) := [
    ("sstid",some (.str item.sstid)), ("sstt",item.sstt.map .str), ("mu",item.mu.map .str),
    ("am",item.am.map number), ("fee",item.fee.map number), ("cfee",item.cfee.map number),
    ("cut",item.cut.map .str), ("exr",item.exr.map .int), ("prdis",item.prdis.map .int),
    ("dis",item.dis.map .int), ("adis",item.adis.map .int), ("vra",item.vra.map number),
    ("vam",item.vam.map .int), ("odt",item.odt.map .str), ("odr",item.odr.map number),
    ("odam",item.odam.map .int), ("olt",item.olt.map .str), ("olr",item.olr.map number),
    ("olam",item.olam.map .int), ("consfee",item.consfee.map .int), ("spro",item.spro.map .int),
    ("bros",item.bros.map .int), ("tcpbs",item.tcpbs.map .int), ("cop",item.cop.map .int),
    ("bsrn",item.bsrn.map .str), ("vop",item.vop.map .int), ("tsstam",item.tsstam.map .int),
    ("nw",item.nw.map number), ("ssrv",item.ssrv.map .int), ("sscv",item.sscv.map number),
    ("cui",item.cui.map number), ("hs",item.hs.map .str), ("cpr",item.cpr.map number),
    ("sovat",item.sovat.map .int), ("vba",item.vba.map number)]

def InvoiceBodyItem.modelDump (item : InvoiceBodyItem) : Dict := present item.fields

structure InvoicePayment where
  (iinn acn trmn trn pcn pid vatpid vatbid : Option String := none)
  (pdt pmt pv : Option Int := none)
  deriving Repr

def InvoicePayment.fields (p : InvoicePayment) : List (String × Option Json) := [
    ("iinn",p.iinn.map .str), ("acn",p.acn.map .str), ("trmn",p.trmn.map .str),
    ("trn",p.trn.map .str), ("pcn",p.pcn.map .str), ("pid",p.pid.map .str),
    ("vatpid",p.vatpid.map .str), ("vatbid",p.vatbid.map .str), ("pdt",p.pdt.map .int),
    ("pmt",p.pmt.map .int), ("pv",p.pv.map .int)]

def InvoicePayment.modelDump (p : InvoicePayment) : Dict := present p.fields

structure Invoice where
  header : InvoiceHeader
  body : List InvoiceBodyItem
  payments : List InvoicePayment := []
  extension : Option (List Dict) := none
  deriving Repr

namespace Invoice

/- `exclude_none` reaches the fields of the models, not what a caller put inside
an extension object. -/
def fields (inv : Invoice) : List (String × Option Json) := [
  ("header",some (.obj inv.header.modelDump)),
  ("body",some (.arr (inv.body.map (fun item => .obj item.modelDump)))),
  ("payments",some (.arr (inv.payments.map (fun p => .obj p.modelDump)))),
  ("extension",inv.extension.map (fun xs => .arr (xs.map .obj)))]

def modelDump (inv : Invoice) : Dict := present inv.fields

def toWireDict (inv : Invoice) : Json := withoutBlanks (.obj inv.modelDump)

end Invoice

/-! What a record holds of an invoice: nothing but the wire form of one. -/

structure WireDict where
  json : Json
  wire : ∃ inv : Invoice, json = inv.toWireDict

def Invoice.wireDict (inv : Invoice) : WireDict := ⟨inv.toWireDict,inv,rfl⟩

namespace WireDict

def header (d : WireDict) (name : String) : Option Json := (d.json.get "header").bind (·.get name)

def text (d : WireDict) (name : String) : Option String :=
  match d.header name with
  | some (.str s) => some s
  | _ => none

end WireDict

theorem headerKeys (h : InvoiceHeader) : (h.fields.map Prod.fst).Nodup := by
  simp only [InvoiceHeader.fields,List.map_cons,List.map_nil]
  decide

theorem bodyKeys (item : InvoiceBodyItem) : (item.fields.map Prod.fst).Nodup := by
  simp only [InvoiceBodyItem.fields,List.map_cons,List.map_nil]
  decide

theorem goodKeys (g : ShippingGood) : (g.fields.map Prod.fst).Nodup := by
  simp only [ShippingGood.fields,List.map_cons,List.map_nil]
  decide

theorem wireHeader (inv : Invoice) :
    inv.toWireDict.get "header" = some (withoutBlanks (.obj inv.header.modelDump)) := by
  simp [Invoice.toWireDict,Invoice.modelDump,Invoice.fields,present,withoutBlanks,withoutBlanksMembers,
    blankString,Json.get]

theorem headerOnWire (inv : Invoice) (name : String) :
    inv.wireDict.header name = (inv.header.fields.lookup name).join.bind
      (fun v => if blankString v then none else some (withoutBlanks v)) := by
  have dumped : ((present inv.header.fields).map Prod.fst).Nodup := (presentKeys _).nodup (headerKeys inv.header)
  unfold WireDict.header
  rw [show inv.wireDict.json = inv.toWireDict from rfl,wireHeader,Option.bind_some]
  change (withoutBlanksMembers (present inv.header.fields)).lookup name = _
  rw [lookupWithoutBlanks dumped,lookupPresent (headerKeys inv.header)]

theorem taxidOnWire (inv : Invoice) :
    inv.wireDict.header "taxid" = if isBlank inv.header.taxid then none else some (.str inv.header.taxid) := by
  have field : inv.header.fields.lookup "taxid" = some (some (.str inv.header.taxid)) := rfl
  rw [headerOnWire,field]
  rfl

end Moadian
