import Mathlib.Data.List.Dedup
import Moadian.Dictionary
import Moadian.Rules.Violations

/-! `extract_table1.py`: the obligation matrix that is read off the table, and
`emit_yaml`, which writes it as the `patterns:` block of `patterns.yaml`. -/
namespace Moadian.Extract

def fields : List (String × String) := [
  ("taxid","header"),("indatim","header"),("indati2m","header"),("inty","header"),("inno","header"),
  ("irtaxid","header"),("inp","header"),("ins","header"),("tins","header"),("tob","header"),("bid","header"),
  ("tinb","header"),("sbc","header"),("bpc","header"),("bbc","header"),("ft","header"),("bpn","header"),
  ("scln","header"),("scc","header"),("cdcn","header"),("cdcd","header"),("crn","header"),("billid","header"),
  ("tprdis","header"),("tdis","header"),("tadis","header"),("tvam","header"),("todam","header"),("tbill","header"),
  ("tonw","header"),("torv","header"),("tocv","header"),("setm","header"),("cap","header"),("insp","header"),
  ("tvop","header"),("tax17","header"),("sstid","body"),("sstt","body"),("am","body"),("mu","body"),("nw","body"),
  ("fee","body"),("cfee","body"),("cut","body"),("exr","body"),("ssrv","body"),("sscv","body"),("prdis","body"),
  ("dis","body"),("adis","body"),("vra","body"),("vam","body"),("odt","body"),("odr","body"),("odam","body"),
  ("olt","body"),("olr","body"),("olam","body"),("consfee","body"),("spro","body"),("bros","body"),("tcpbs","body"),
  ("cop","body"),("vop","body"),("bsrn","body"),("tsstam","body"),("iinn","payment"),("acn","payment"),
  ("trmn","payment"),("pmt","payment"),("trn","payment"),("pcn","payment"),("pid","payment"),("pdt","payment"),
  ("pv","payment"),("cui","body"),("tinc","header"),("lno","header"),("lrno","header"),("ocu","header"),
  ("oci","header"),("dco","header"),("dci","header"),("tid","header"),("rid","header"),("lt","header"),
  ("cno","header"),("did","header"),("sg","header"),("sgid","sg"),("sgt","sg"),("cpr","body"),("sovat","body"),
  ("asn","header"),("asd","header"),("in","header"),("an","header"),("vba","body"),("insr","header"),
  ("nti1","header"),("nti2","header")]

structure Meta where
  section_ : String
  title : String
  -- A key is `f"{invoice_type}/{pattern}"`.
  patterns : Dictionary (Int × Int) Obligation

abbrev Matrix := Dictionary String Meta

def obligationText : Obligation → String
  | .required => "required"
  | .optional => "optional"
  | .conditional => "conditional"
  | .notApplicable => "not_applicable"

def patternNames : List (Int × String × String) := [
  (1,"فروش","Sale"),
  (2,"فروش ارز","Currency sale"),
  (3,"صورتحساب طلا، جواهر و پلاتین","Gold, jewellery and platinum"),
  (4,"قرارداد پیمانکاری","Contracting"),
  (5,"قبوض خدماتی","Utility bills"),
  (6,"بلیط هواپیما","Air ticket"),
  (7,"صادرات","Export"),
  (8,"بارنامه","Bill of lading"),
  (9,"فروش فرآورده‌های نفتی (پالایش و پخش)","Petroleum products"),
  (11,"بورس اوراق بهادار مبتنی بر کالا","Commodity-backed securities"),
  (13,"فروش خدمات بیمه‌ای","Insurance services"),
  (14,"فروش زنجیره‌ای","Chain sale")]

def knownConditions : List (String × String × String) := [
  ("cap","setm == 3","§8-22، جدول ۲۴، ردیف ۳"),
  ("insp","setm == 3","§8-22، جدول ۲۴، ردیف ۳"),
  ("irtaxid","ins in (2, 3, 4)","§5"),
  ("indati2m","insr == 1","§6")]

def yamlScalar (text : String) : String :=
  "\"" ++ String.ofList (text.toList.flatMap (fun c => if c = '"' then ['\\','"'] else [c])) ++ "\""

def join (texts : List String) : String := ", ".intercalate texts

section Pattern
variable (matrix : Matrix)

def patterns : List Int :=
  (matrix.entries.flatMap (fun e => e.2.patterns.keys.map Prod.snd)).dedup.mergeSort (· ≤ ·)

variable (pattern : Int)

def types : List Int :=
  (matrix.entries.flatMap (fun e => (e.2.patterns.entries.filter
    (fun k => k.1.2 = pattern ∧ k.2 ≠ .notApplicable)).map (fun k => k.1.1))).dedup.mergeSort (· ≤ ·)

def names : String × String :=
  (patternNames.lookup pattern).getD ("الگوی " ++ toString pattern,"Pattern " ++ toString pattern)

def Meta.at_ (entry : Meta) (t : Int) : Obligation := (entry.patterns.get (t,pattern)).getD .notApplicable

variable (types : List Int)

def Meta.primary (entry : Meta) : Obligation := entry.at_ pattern (types.headD 1)

def Meta.overrides (entry : Meta) : List (Int × Obligation) :=
  ((types.filter (fun t => entry.patterns.get (t,pattern) ≠ some (entry.primary pattern types))).map
    (fun t => (t,entry.at_ pattern t))).mergeSort (fun a b => a.1 ≤ b.1)

def Meta.excluded (entry : Meta) : Bool :=
  entry.primary pattern types = .notApplicable && (entry.overrides pattern types).isEmpty

def parts (wire : String) (entry : Meta) : List String :=
  let known := (knownConditions.lookup wire).getD ("unspecified","")
  ["obligation: " ++ obligationText (entry.primary pattern types)] ++
  (if entry.primary pattern types = .conditional then
    ["when: " ++ yamlScalar known.1] ++
    (if known.2 ≠ "" then ["condition_reference: " ++ yamlScalar known.2] else [])
  else []) ++
  (if entry.overrides pattern types ≠ [] then
    ["by_type: \x7b" ++ join ((entry.overrides pattern types).map (fun o => toString o.1 ++ ": " ++ obligationText o.2)) ++ "\x7d"]
  else []) ++
  ["title: " ++ yamlScalar entry.title]

def entries (section_ : String) : List (String × Meta) := matrix.entries.filter (fun e => e.2.section_ = section_)

def rows (section_ : String) : List String :=
  ((entries matrix section_).filter (fun e => !e.2.excluded pattern types)).map
    (fun e => "      " ++ e.1 ++ ": \x7b" ++ join (parts pattern types e.1 e.2) ++ "\x7d")

def left (section_ : String) : List String :=
  ((entries matrix section_).filter (fun e => e.2.excluded pattern types)).map Prod.fst

end Pattern

def sectionNames : List String := ["header","body","payment","sg"]

def patternLines (matrix : Matrix) (pattern : Int) : List String :=
  let types := types matrix pattern
  let excluded := (sectionNames.map (fun s => (s,left matrix pattern types s))).filter (fun e => e.2 ≠ [])
  ["  " ++ toString pattern ++ ":",
    "    name: " ++ yamlScalar (names pattern).1,
    "    name_en: " ++ yamlScalar (names pattern).2,
    "    coverage: complete",
    "    types: [" ++ (let listed := join (types.map toString); if listed = "" then "1" else listed) ++ "]",
    "    reference: \"RC_IITP_IS_V7_9_1 جدول شماره ۱\""] ++
  sectionNames.flatMap (fun s => let rows := rows matrix pattern types s; if rows ≠ [] then ("    " ++ s ++ ":") :: rows else []) ++
  (if excluded ≠ [] then
    "    excluded:" :: excluded.map (fun e => "      " ++ e.1 ++ ": [" ++ join (e.2.mergeSort (· ≤ ·)) ++ "]")
  else [])

def emitYaml (matrix : Matrix) : String :=
  "\n".intercalate (
    ["# GENERATED by tools/extract_table1.py from RC_IITP_IS_V7_9_1 جدول شماره ۱ (p.14).",
      "# Verified against the §8 per-field tables by the tool's --check anchors.",
      "# Edit the tool and regenerate; hand edits here will be overwritten.",
      "patterns:"] ++ (patterns matrix).flatMap (patternLines matrix)) ++ "\n"

end Moadian.Extract
