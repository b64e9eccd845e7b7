import Moadian.Rules.Engine

/-! `patterns.yaml`, as `load_rules` reads it. Every field is titled alike in every
pattern that has it, so the titles stand once. -/
namespace Moadian.Patterns

def table : String := "RC_IITP_IS_V7_9_1 جدول شماره ۱"

def titleOf : List (String × String) := [
  ("taxid","شماره منحصر به فرد مالياتي"), ("indatim","تاريخ و زمان صدور صورتحساب ) ميالدي ("),
  ("indati2m","تاريخ و زمان ثبت صورتحساب ) ميالدي ("), ("inty","نوع صورتحساب"),
  ("inno","سريال صورتحساب داخلي حافظه مالياتي"), ("irtaxid","شماره منحصر به فرد مالياتي صورتحساب مرجع"),
  ("inp","الگوي صورتحساب"), ("ins","موضوع صورتحساب"), ("tins","شماره اقتصادي فروشنده"),
  ("tob","نوع شخص خريدار"),
  ("bid","خريدار شناسه ملي/ شماره ملي/ شناسه مشاركت مدني/ كد فراگير اتباع غير ايراني"),
  ("tinb","شماره اقتصادي خريدار"), ("sbc","كد شعبه فروشنده"), ("bpc","كد پستي خريدار"),
  ("bbc","كد شعبه خريدار"), ("scln","شماره پروانه گمركي"), ("scc","كد گمرك محل اظهار فروشنده"),
  ("crn","شماره قرارداد پيمانكاري"), ("tprdis","مجموع مبلغ قبل از كسر تخفيف"), ("tdis","مجموع تخفيفات"),
  ("tadis","مجموع مبلغ پس از كسر تخفيف"), ("tvam","مجموع ماليات بر ارزش افزوده"),
  ("todam","مجموع ساير ماليات، عوارض و وجوه قانوني"), ("tbill","مجموع صورتحساب"), ("setm","روش تسويه"),
  ("cap","مبلغ پرداختي نقدي"), ("insp","مبلغ نسيه"),
  ("tvop","مجموع سهم ماليات بر ارزش افزوده از پرداخت"), ("tax17","ماليات موضوع ماده 7١"),
  ("insr","قاعده ارسال صورتحساب"), ("nti1","يادداشت ١"), ("nti2","يادداشت 2"),
  ("sstid","شناسه كاال/خدمت"), ("sstt","شرح كاال/ خدمت"), ("am","تعداد/مقدار"),
  ("mu","واحد اندازه گيري"), ("fee","مبلغ واحد"), ("cfee","ميزان ارز"), ("cut","نوع ارز"),
  ("exr","نرخ برابري ارز با ريال"), ("prdis","مبلغ قبل از تخفيف"), ("dis","مبلغ تخفيف"),
  ("adis","مبلغ بعد از تخفيف"), ("vra","نرخ ماليات بر ارزش افزوده"),
  ("vam","مبلغ ماليات بر ارزش افزوده"), ("odt","موضوع ساير ماليات و عوارض"),
  ("odr","نرخ ساير ماليات و عوارض"), ("odam","مبلغ ساير ماليات و عوارض"),
  ("olt","موضوع ساير وجوه قانوني"), ("olr","نرخ ساير وجوه قانوني"), ("olam","مبلغ ساير وجوه قانوني"),
  ("cop","سهم نقدي از پرداخت"), ("vop","سهم ماليات بر ارزش افزوده از پرداخت"),
  ("bsrn","شماره قرارداد معامله از طريق شخص ثالث"), ("tsstam","مبلغ كل كاال/خدمت"),
  ("iinn","شماره سوئيچ پرداخت"), ("acn","شماره پذيرنده فروشگاهي"), ("trmn","شماره پايانه"),
  ("pmt","روش پرداخت"), ("trn","شماره پيگيري/شماره مرجع"), ("pcn","شماره كارت پرداخت كننده صورتحساب"),
  ("pid","شماره/شناسه ملي/كد فراگير پرداخت كننده صورتحساب"), ("pdt","تاريخ و زمان پرداخت"),
  ("pv","مبلغ پرداختي"), ("bpn","شماره گذرنامه خريدار"), ("cpr","نرخ خريد ارز"),
  ("sovat","ماخذ ماليات بر ارزش افزوده در الگوي فروش ارز"), ("consfee","اجرت ساخت"),
  ("spro","سود فروشنده"), ("bros","حق العمل"), ("tcpbs","جمع كل اجرت، حق العمل و سود"), ("cui","عيار"),
  ("billid","شماره اشتراك /شناسه قبض بهره بردار"), ("ft","نوع پرواز"), ("tinc","شماره اقتصادي آژانس"),
  ("cdcn","شماره كوتاژ اظهارنامه گمركي"), ("cdcd","تاريخ كوتاژ اظهارنامه گمركي"),
  ("tonw","مجموع وزن خالص"), ("torv","مجموع ارزش ريالي"), ("tocv","مجموع ارزش ارزي"), ("nw","وزن خالص"),
  ("ssrv","ارزش ريالي كاال"), ("sscv","ارزش ارزي كاال"), ("lno","شماره بارنامه"),
  ("lrno","شماره بارنامه مرجع"), ("ocu","كشور مبدا"), ("oci","شهر مبدا"), ("dco","كشور مقصد"),
  ("dci","شهر مقصد"),
  ("tid","فرستنده شناسه ملي/ شماره ملي/ شناسه مشاركت مدني/ كد فراگير اتباع غير ايراني"),
  ("rid","گيرنده شناسه ملي/ شماره ملي/ شناسه مشاركت مدني/ كد فراگير اتباع غير ايراني"),
  ("lt","نوع بارنامه/نوع حمل"), ("cno","شماره ناوگان"),
  ("did","شماره ملي/ كد فراگير اتباع غيرايراني راننده در حمل و نقل جاده اي"), ("sg","كاالهاي حمل شده"),
  ("sgid","شناسه كاالي حمل شده"), ("sgt","شرح كاالي حمل شده"),
  ("vba","مبلغ پايه ماليات بر ارزش افزوده"), ("asn","شماره اعالميه فروش بورس"),
  ("asd","تاريخ اعالميه فروش بورس"), ("in","شناسه يكتاي بيمه نامه"), ("an","شناسه يكتاي الحاقيه")]

def rule (name : String) (obligation : Obligation) : FieldRule where
  name := name
  obligation := obligation
  reference := table
  title := (titleOf.lookup name).getD ""

def required (name : String) : FieldRule := rule name .required

def optional (name : String) : FieldRule := rule name .optional

def conditional (condition reference name : String) : FieldRule :=
  { rule name .conditional with condition := some condition, reference := reference }

def unspecified (name : String) : FieldRule := conditional Spec.unspecified table name

def ifSplit (name : String) : FieldRule := conditional "setm == 3" "§8-22، جدول ۲۴، ردیف ۳" name

def ifLate (name : String) : FieldRule := conditional "insr == 1" "§6" name

def ifReferring (name : String) : FieldRule := conditional "ins in (2, 3, 4)" "§5" name

def onType (r : FieldRule) (invoiceType : Int) (obligation : Obligation) : FieldRule :=
  { r with byType := [(invoiceType,obligation)] }

/- An excluded field takes the place of the rule of its name, or is added last. -/
def exclude (rules : List FieldRule) (name : String) : List FieldRule :=
  let excluded : FieldRule := { name := name, obligation := .notApplicable, reference := table }
  if rules.any (fun r => r.name == name) then rules.map (fun r => if r.name == name then excluded else r)
  else rules ++ [excluded]

def excluding (names : List String) (rules : List FieldRule) : List FieldRule := names.foldl exclude rules

def pattern1 : PatternSpec where
  number := 1
  name := "فروش"
  nameEn := "Sale"
  types := [1,2]
  reference := table
  coverage := "complete"
  header := excluding [
    "an", "asd", "asn", "billid", "bpn", "cdcd", "cdcn", "cno", "dci", "dco", "did", "ft", "in", "lno",
    "lrno", "lt", "oci", "ocu", "rid", "sg", "tid", "tinc", "tocv", "tonw", "torv"] [
    required "taxid", required "indatim", ifLate "indati2m", required "inty", optional "inno",
    ifReferring "irtaxid", required "inp", required "ins", required "tins",
    onType (required "tob") 2 .optional, optional "bid", onType (unspecified "tinb") 2 .optional,
    optional "sbc", optional "bpc", optional "bbc", onType (optional "scln") 2 .notApplicable,
    onType (optional "scc") 2 .notApplicable, onType (optional "crn") 2 .notApplicable,
    required "tprdis", optional "tdis", required "tadis", required "tvam", required "todam",
    required "tbill", onType (required "setm") 2 .notApplicable,
    onType (ifSplit "cap") 2 .notApplicable, onType (ifSplit "insp") 2 .notApplicable,
    onType (optional "tvop") 2 .notApplicable, optional "tax17", unspecified "insr", optional "nti1",
    optional "nti2"]
  body := excluding [
    "bros", "consfee", "cpr", "cui", "nw", "sovat", "spro", "sscv", "ssrv", "tcpbs", "vba"] [
    required "sstid", optional "sstt", required "am", optional "mu", required "fee", optional "cfee",
    optional "cut", optional "exr", required "prdis", required "dis", required "adis", required "vra",
    required "vam", unspecified "odt", unspecified "odr", unspecified "odam", unspecified "olt",
    unspecified "olr", unspecified "olam", onType (optional "cop") 2 .notApplicable,
    onType (optional "vop") 2 .notApplicable, optional "bsrn", required "tsstam"]
  payment := [
    optional "iinn", optional "acn", optional "trmn", optional "pmt", optional "trn", optional "pcn",
    optional "pid", optional "pdt", optional "pv"]
  sg := excluding [
    "sgid", "sgt"] []

def pattern2 : PatternSpec where
  number := 2
  name := "فروش ارز"
  nameEn := "Currency sale"
  types := [1]
  reference := table
  coverage := "complete"
  header := excluding [
    "an", "asd", "asn", "billid", "cdcd", "cdcn", "cno", "dci", "dco", "did", "ft", "in", "lno", "lrno",
    "lt", "oci", "ocu", "rid", "sg", "tid", "tinc", "tocv", "tonw", "torv"] [
    required "taxid", required "indatim", ifLate "indati2m", required "inty", optional "inno",
    ifReferring "irtaxid", required "inp", required "ins", required "tins", required "tob",
    unspecified "bid", unspecified "tinb", optional "sbc", optional "bpc", optional "bbc",
    unspecified "bpn", optional "scln", optional "scc", optional "crn", required "tprdis",
    optional "tdis", required "tadis", required "tvam", required "todam", required "tbill",
    required "setm", ifSplit "cap", ifSplit "insp", optional "tvop", optional "tax17",
    unspecified "insr", optional "nti1", optional "nti2"]
  body := excluding [
    "am", "bros", "consfee", "cui", "fee", "mu", "nw", "spro", "sscv", "ssrv", "tcpbs", "vba"] [
    required "sstid", optional "sstt", required "cfee", required "cut", required "exr",
    required "prdis", required "dis", required "adis", required "vra", required "vam",
    unspecified "odt", unspecified "odr", unspecified "odam", unspecified "olt", unspecified "olr",
    unspecified "olam", optional "cop", optional "vop", optional "bsrn", required "tsstam",
    required "cpr", required "sovat"]
  payment := [
    optional "iinn", optional "acn", optional "trmn", optional "pmt", optional "trn", optional "pcn",
    optional "pid", optional "pdt", optional "pv"]
  sg := excluding [
    "sgid", "sgt"] []

def pattern3 : PatternSpec where
  number := 3
  name := "صورتحساب طلا، جواهر و پلاتین"
  nameEn := "Gold, jewellery and platinum"
  types := [1,2]
  reference := table
  coverage := "complete"
  header := excluding [
    "an", "asd", "asn", "billid", "bpn", "cdcd", "cdcn", "cno", "dci", "dco", "did", "ft", "in", "lno",
    "lrno", "lt", "oci", "ocu", "rid", "scc", "scln", "sg", "tid", "tinc", "tocv", "tonw", "torv"] [
    required "taxid", required "indatim", ifLate "indati2m", required "inty", optional "inno",
    ifReferring "irtaxid", required "inp", required "ins", required "tins",
    onType (required "tob") 2 .optional, optional "bid", onType (unspecified "tinb") 2 .optional,
    optional "sbc", optional "bpc", optional "bbc", onType (optional "crn") 2 .notApplicable,
    required "tprdis", optional "tdis", required "tadis", required "tvam", required "todam",
    required "tbill", onType (required "setm") 2 .notApplicable,
    onType (ifSplit "cap") 2 .notApplicable, onType (ifSplit "insp") 2 .notApplicable,
    onType (optional "tvop") 2 .notApplicable, optional "tax17", unspecified "insr", optional "nti1",
    optional "nti2"]
  body := excluding [
    "cpr", "nw", "sovat", "sscv", "ssrv", "vba"] [
    required "sstid", optional "sstt", required "am", optional "mu", required "fee", optional "cfee",
    optional "cut", optional "exr", required "prdis", required "dis", required "adis", required "vra",
    required "vam", unspecified "odt", unspecified "odr", unspecified "odam", unspecified "olt",
    unspecified "olr", unspecified "olam", required "consfee", required "spro", required "bros",
    required "tcpbs", onType (optional "cop") 2 .notApplicable,
    onType (optional "vop") 2 .notApplicable, optional "bsrn", required "tsstam", optional "cui"]
  payment := [
    optional "iinn", optional "acn", optional "trmn", optional "pmt", optional "trn", optional "pcn",
    optional "pid", optional "pdt", optional "pv"]
  sg := excluding [
    "sgid", "sgt"] []

def pattern4 : PatternSpec where
  number := 4
  name := "قرارداد پیمانکاری"
  nameEn := "Contracting"
  types := [1]
  reference := table
  coverage := "complete"
  header := excluding [
    "an", "asd", "asn", "billid", "bpn", "cdcd", "cdcn", "cno", "dci", "dco", "did", "ft", "in", "lno",
    "lrno", "lt", "oci", "ocu", "rid", "scc", "scln", "sg", "tid", "tinc", "tocv", "tonw", "torv"] [
    required "taxid", required "indatim", ifLate "indati2m", required "inty", optional "inno",
    ifReferring "irtaxid", required "inp", required "ins", required "tins", required "tob",
    optional "bid", unspecified "tinb", optional "sbc", optional "bpc", optional "bbc", required "crn",
    required "tprdis", optional "tdis", required "tadis", required "tvam", required "todam",
    required "tbill", required "setm", ifSplit "cap", ifSplit "insp", optional "tvop", optional "tax17",
    unspecified "insr", optional "nti1", optional "nti2"]
  body := excluding [
    "bros", "consfee", "cpr", "cui", "nw", "sovat", "spro", "sscv", "ssrv", "tcpbs", "vba"] [
    required "sstid", optional "sstt", required "am", optional "mu", required "fee", optional "cfee",
    optional "cut", optional "exr", required "prdis", required "dis", required "adis", required "vra",
    required "vam", unspecified "odt", unspecified "odr", unspecified "odam", unspecified "olt",
    unspecified "olr", unspecified "olam", optional "cop", optional "vop", optional "bsrn",
    required "tsstam"]
  payment := [
    optional "iinn", optional "acn", optional "trmn", optional "pmt", optional "trn", optional "pcn",
    optional "pid", optional "pdt", optional "pv"]
  sg := excluding [
    "sgid", "sgt"] []

def pattern5 : PatternSpec where
  number := 5
  name := "قبوض خدماتی"
  nameEn := "Utility bills"
  types := [1]
  reference := table
  coverage := "complete"
  header := excluding [
    "an", "asd", "asn", "bpn", "cdcd", "cdcn", "cno", "crn", "dci", "dco", "did", "ft", "in", "lno",
    "lrno", "lt", "oci", "ocu", "rid", "scc", "scln", "sg", "tid", "tinc", "tocv", "tonw", "torv"] [
    required "taxid", required "indatim", ifLate "indati2m", required "inty", optional "inno",
    ifReferring "irtaxid", required "inp", required "ins", required "tins", required "tob",
    optional "bid", optional "tinb", optional "sbc", optional "bpc", optional "bbc", required "billid",
    required "tprdis", optional "tdis", required "tadis", required "tvam", required "todam",
    required "tbill", required "setm", ifSplit "cap", ifSplit "insp", optional "tvop", optional "tax17",
    unspecified "insr", optional "nti1", optional "nti2"]
  body := excluding [
    "bros", "cfee", "consfee", "cpr", "cui", "cut", "exr", "nw", "sovat", "spro", "sscv", "ssrv",
    "tcpbs", "vba"] [
    required "sstid", optional "sstt", required "am", optional "mu", required "fee", required "prdis",
    required "dis", required "adis", required "vra", required "vam", unspecified "odt",
    unspecified "odr", unspecified "odam", unspecified "olt", unspecified "olr", unspecified "olam",
    optional "cop", optional "vop", optional "bsrn", required "tsstam"]
  payment := [
    optional "iinn", optional "acn", optional "trmn", optional "pmt", optional "trn", optional "pcn",
    optional "pid", optional "pdt", optional "pv"]
  sg := excluding [
    "sgid", "sgt"] []

def pattern6 : PatternSpec where
  number := 6
  name := "بلیط هواپیما"
  nameEn := "Air ticket"
  types := [1]
  reference := table
  coverage := "complete"
  header := excluding [
    "an", "asd", "asn", "billid", "cdcd", "cdcn", "cno", "crn", "dci", "dco", "did", "in", "lno",
    "lrno", "lt", "oci", "ocu", "rid", "scc", "scln", "sg", "tid", "tocv", "tonw", "torv"] [
    required "taxid", required "indatim", ifLate "indati2m", required "inty", optional "inno",
    ifReferring "irtaxid", required "inp", required "ins", required "tins", required "tob",
    unspecified "bid", optional "tinb", optional "sbc", optional "bpc", optional "bbc", required "ft",
    unspecified "bpn", required "tprdis", optional "tdis", required "tadis", required "tvam",
    required "todam", required "tbill", required "setm", ifSplit "cap", ifSplit "insp", optional "tvop",
    optional "tax17", optional "tinc", unspecified "insr", optional "nti1", optional "nti2"]
  body := excluding [
    "bros", "consfee", "cpr", "cui", "nw", "sovat", "spro", "sscv", "ssrv", "tcpbs", "vba"] [
    required "sstid", optional "sstt", required "am", optional "mu", required "fee", optional "cfee",
    optional "cut", optional "exr", required "prdis", required "dis", required "adis", required "vra",
    required "vam", unspecified "odt", unspecified "odr", unspecified "odam", unspecified "olt",
    unspecified "olr", unspecified "olam", optional "cop", optional "vop", optional "bsrn",
    required "tsstam"]
  payment := [
    optional "iinn", optional "acn", optional "trmn", optional "pmt", optional "trn", optional "pcn",
    optional "pid", optional "pdt", optional "pv"]
  sg := excluding [
    "sgid", "sgt"] []

def pattern7 : PatternSpec where
  number := 7
  name := "صادرات"
  nameEn := "Export"
  types := [1]
  reference := table
  coverage := "complete"
  header := excluding [
    "an", "asd", "asn", "billid", "cno", "crn", "dci", "dco", "did", "ft", "in", "lno", "lrno", "lt",
    "oci", "ocu", "rid", "scln", "sg", "tadis", "tax17", "tdis", "tid", "tinc", "tprdis"] [
    required "taxid", required "indatim", ifLate "indati2m", required "inty", optional "inno",
    ifReferring "irtaxid", required "inp", required "ins", required "tins", optional "tob",
    optional "bid", optional "tinb", optional "sbc", optional "bpc", optional "bbc", optional "bpn",
    optional "scc", optional "cdcn", optional "cdcd", required "tvam", required "todam",
    required "tbill", unspecified "tonw", required "torv", required "tocv", required "setm",
    ifSplit "cap", ifSplit "insp", optional "tvop", unspecified "insr", optional "nti1",
    optional "nti2"]
  body := excluding [
    "adis", "bros", "cfee", "consfee", "cpr", "cui", "dis", "prdis", "sovat", "spro", "tcpbs", "vba"] [
    required "sstid", optional "sstt", required "am", optional "mu", unspecified "nw", optional "fee",
    required "cut", required "exr", required "ssrv", required "sscv", required "vra", required "vam",
    unspecified "odt", unspecified "odr", unspecified "odam", unspecified "olt", unspecified "olr",
    unspecified "olam", optional "cop", optional "vop", optional "bsrn", required "tsstam"]
  payment := excluding [
    "acn", "iinn", "pcn", "pdt", "pid", "pmt", "pv", "trmn", "trn"] []
  sg := excluding [
    "sgid", "sgt"] []

def pattern8 : PatternSpec where
  number := 8
  name := "بارنامه"
  nameEn := "Bill of lading"
  types := [1]
  reference := table
  coverage := "complete"
  header := excluding [
    "an", "asd", "asn", "billid", "bpn", "cdcd", "cdcn", "crn", "ft", "in", "scc", "scln", "tinc",
    "tocv", "tonw", "torv"] [
    required "taxid", required "indatim", ifLate "indati2m", required "inty", optional "inno",
    ifReferring "irtaxid", required "inp", required "ins", required "tins", required "tob",
    optional "bid", unspecified "tinb", optional "sbc", optional "bpc", optional "bbc",
    required "tprdis", optional "tdis", required "tadis", required "tvam", required "todam",
    required "tbill", required "setm", ifSplit "cap", ifSplit "insp", optional "tvop", optional "tax17",
    required "lno", optional "lrno", required "ocu", unspecified "oci", required "dco",
    unspecified "dci", required "tid", unspecified "rid", required "lt", required "cno",
    unspecified "did", required "sg", unspecified "insr", optional "nti1", optional "nti2"]
  body := excluding [
    "bros", "consfee", "cpr", "cui", "mu", "nw", "sovat", "spro", "sscv", "ssrv", "tcpbs", "vba"] [
    required "sstid", optional "sstt", required "am", required "fee", optional "cfee", optional "cut",
    optional "exr", required "prdis", required "dis", required "adis", required "vra", required "vam",
    unspecified "odt", unspecified "odr", unspecified "odam", unspecified "olt", unspecified "olr",
    unspecified "olam", optional "cop", optional "vop", optional "bsrn", required "tsstam"]
  payment := [
    optional "iinn", optional "acn", optional "trmn", optional "pmt", optional "trn", optional "pcn",
    optional "pid", optional "pdt", optional "pv"]
  sg := [
    required "sgid", required "sgt"]

def pattern9 : PatternSpec where
  number := 9
  name := "فروش فرآورده‌های نفتی (پالایش و پخش)"
  nameEn := "Petroleum products"
  types := [1,2]
  reference := table
  coverage := "complete"
  header := excluding [
    "an", "asd", "asn", "billid", "bpn", "cdcd", "cdcn", "cno", "crn", "dci", "dco", "did", "ft", "in",
    "lno", "lrno", "lt", "oci", "ocu", "rid", "scc", "scln", "sg", "tid", "tinc", "tocv", "tonw",
    "torv"] [
    required "taxid", required "indatim", ifLate "indati2m", required "inty", optional "inno",
    ifReferring "irtaxid", required "inp", required "ins", required "tins",
    onType (required "tob") 2 .optional, optional "bid", onType (unspecified "tinb") 2 .optional,
    optional "sbc", optional "bpc", optional "bbc", required "tprdis", optional "tdis",
    required "tadis", required "tvam", required "todam", required "tbill",
    onType (required "setm") 2 .notApplicable, onType (ifSplit "cap") 2 .notApplicable,
    onType (ifSplit "insp") 2 .notApplicable, onType (optional "tvop") 2 .notApplicable,
    optional "tax17", unspecified "insr", optional "nti1", optional "nti2"]
  body := excluding [
    "bros", "consfee", "cpr", "cui", "nw", "sovat", "spro", "sscv", "ssrv", "tcpbs"] [
    required "sstid", optional "sstt", required "am", optional "mu", required "fee", optional "cfee",
    optional "cut", optional "exr", required "prdis", required "dis", required "adis",
    unspecified "vra", required "vam", unspecified "odt", unspecified "odr", unspecified "odam",
    unspecified "olt", unspecified "olr", unspecified "olam", onType (optional "cop") 2 .notApplicable,
    onType (optional "vop") 2 .notApplicable, optional "bsrn", required "tsstam", unspecified "vba"]
  payment := [
    optional "iinn", optional "acn", optional "trmn", optional "pmt", optional "trn", optional "pcn",
    optional "pid", optional "pdt", optional "pv"]
  sg := excluding [
    "sgid", "sgt"] []

def pattern11 : PatternSpec where
  number := 11
  name := "بورس اوراق بهادار مبتنی بر کالا"
  nameEn := "Commodity-backed securities"
  types := [1]
  reference := table
  coverage := "complete"
  header := excluding [
    "an", "billid", "bpn", "cdcd", "cdcn", "cno", "crn", "dci", "dco", "did", "ft", "in", "lno", "lrno",
    "lt", "oci", "ocu", "rid", "scc", "scln", "sg", "tax17", "tdis", "tid", "tinc", "tocv", "todam",
    "tonw", "torv", "tprdis"] [
    required "taxid", required "indatim", ifLate "indati2m", required "inty", optional "inno",
    ifReferring "irtaxid", required "inp", required "ins", required "tins", optional "tob",
    optional "bid", optional "tinb", optional "sbc", optional "bpc", optional "bbc", required "tadis",
    required "tvam", required "tbill", required "setm", ifSplit "cap", ifSplit "insp", optional "tvop",
    required "asn", required "asd", unspecified "insr", optional "nti1", optional "nti2"]
  body := excluding [
    "bros", "bsrn", "cfee", "consfee", "cpr", "cut", "dis", "exr", "fee", "nw", "odam", "odr", "odt",
    "olam", "olr", "olt", "prdis", "sovat", "spro", "sscv", "ssrv", "tcpbs", "vba"] [
    required "sstid", optional "sstt", required "am", required "mu", required "adis", required "vra",
    required "vam", optional "cop", optional "vop", required "tsstam", optional "cui"]
  payment := excluding [
    "acn", "iinn", "pcn", "pdt", "pid", "pmt", "pv", "trmn", "trn"] []
  sg := excluding [
    "sgid", "sgt"] []

def pattern13 : PatternSpec where
  number := 13
  name := "فروش خدمات بیمه‌ای"
  nameEn := "Insurance services"
  types := [1,2]
  reference := table
  coverage := "complete"
  header := excluding [
    "asd", "asn", "billid", "bpn", "cdcd", "cdcn", "cno", "crn", "dci", "dco", "did", "ft", "lno",
    "lrno", "lt", "oci", "ocu", "rid", "scc", "scln", "sg", "tid", "tinc", "tocv", "tonw", "torv"] [
    required "taxid", required "indatim", ifLate "indati2m", required "inty", optional "inno",
    ifReferring "irtaxid", required "inp", required "ins", required "tins",
    onType (required "tob") 2 .optional, optional "bid", onType (unspecified "tinb") 2 .optional,
    optional "sbc", optional "bpc", optional "bbc", required "tprdis", optional "tdis",
    required "tadis", required "tvam", required "todam", required "tbill",
    onType (required "setm") 2 .notApplicable, onType (ifSplit "cap") 2 .notApplicable,
    onType (ifSplit "insp") 2 .notApplicable, onType (optional "tvop") 2 .notApplicable,
    optional "tax17", required "in", optional "an", unspecified "insr", optional "nti1",
    optional "nti2"]
  body := excluding [
    "bros", "consfee", "cpr", "cui", "nw", "sovat", "spro", "sscv", "ssrv", "tcpbs", "vba"] [
    required "sstid", optional "sstt", required "am", optional "mu", required "fee", optional "cfee",
    optional "cut", optional "exr", required "prdis", required "dis", required "adis", required "vra",
    required "vam", unspecified "odt", unspecified "odr", unspecified "odam", unspecified "olt",
    unspecified "olr", unspecified "olam", onType (optional "cop") 2 .notApplicable,
    onType (optional "vop") 2 .notApplicable, optional "bsrn", required "tsstam"]
  payment := [
    optional "iinn", optional "acn", optional "trmn", optional "pmt", optional "trn", optional "pcn",
    optional "pid", optional "pdt", optional "pv"]
  sg := excluding [
    "sgid", "sgt"] []

def pattern14 : PatternSpec where
  number := 14
  name := "فروش زنجیره‌ای"
  nameEn := "Chain sale"
  types := [1]
  reference := table
  coverage := "complete"
  header := excluding [
    "an", "asd", "asn", "billid", "bpn", "cdcd", "cdcn", "cno", "crn", "dci", "dco", "did", "ft", "in",
    "lno", "lrno", "lt", "oci", "ocu", "rid", "scc", "scln", "sg", "tid", "tinc", "tocv", "tonw",
    "torv"] [
    required "taxid", required "indatim", ifLate "indati2m", required "inty", optional "inno",
    ifReferring "irtaxid", required "inp", required "ins", required "tins", required "tob",
    optional "bid", required "tinb", optional "sbc", optional "bpc", optional "bbc", required "tprdis",
    optional "tdis", required "tadis", required "tvam", required "todam", required "tbill",
    required "setm", ifSplit "cap", ifSplit "insp", optional "tvop", optional "tax17",
    unspecified "insr", optional "nti1", optional "nti2"]
  body := excluding [
    "bros", "consfee", "cpr", "cui", "nw", "sovat", "spro", "sscv", "ssrv", "tcpbs", "vba"] [
    required "sstid", optional "sstt", required "am", optional "mu", required "fee", optional "cfee",
    optional "cut", optional "exr", required "prdis", required "dis", required "adis", required "vra",
    required "vam", unspecified "odt", unspecified "odr", unspecified "odam", unspecified "olt",
    unspecified "olr", unspecified "olam", optional "cop", optional "vop", optional "bsrn",
    required "tsstam"]
  payment := [
    optional "iinn", optional "acn", optional "trmn", optional "pmt", optional "trn", optional "pcn",
    optional "pid", optional "pdt", optional "pv"]
  sg := excluding [
    "sgid", "sgt"] []

def enums : List EnumRule := [
  ⟨"inty",[1,2,3],"نوع صورتحساب باید یک، دو یا سه باشد.","§3"⟩,
  ⟨"ins",[1,2,3,4],"موضوع صورتحساب باید اصلی، اصلاحی، ابطالی یا برگشت از فروش باشد.","§5"⟩,
  ⟨"setm",[1,2,3],"روش تسویه باید نقدی (۱)، نسیه (۲) یا نقدی/نسیه (۳) باشد.","§8-22، جدول ۲۴، ردیف ۱"⟩,
  ⟨"tob",[1,2,3,4,5],"نوع شخص خریدار خارج از مقادیر مجاز است.","§8-9"⟩,
  ⟨"insr",[1],"قاعده ارسال صورتحساب تنها می‌تواند برابر یک باشد.","§6"⟩]

def rules : RuleSet := ⟨[
  pattern1, pattern2, pattern3, pattern4, pattern5, pattern6, pattern7, pattern8, pattern9, pattern11,
  pattern13, pattern14],enums⟩

def engine : RuleEngine := ⟨rules⟩

end Moadian.Patterns
