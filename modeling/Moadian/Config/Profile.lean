import Moadian.Config.Environment
import Moadian.Config.Profiles

/-! One fiscal memory: what a profile holds, when it can be used, and the object it is
kept as. Filing sees its name and its memory only. -/
namespace Moadian.Config

structure Profile where
  name : String
  memoryId : String
  environment : Environment
  economicCode : Option String := none
  baseUrlOverride : Option String := none
  deriving DecidableEq, Repr

def digitRanges : List (Nat × Nat) := [
  (0x30,0x39),(0xB2,0xB3),(0xB9,0xB9),(0x660,0x669),(0x6F0,0x6F9),(0x7C0,0x7C9),(0x966,0x96F),(0x9E6,0x9EF),
  (0xA66,0xA6F),(0xAE6,0xAEF),(0xB66,0xB6F),(0xBE6,0xBEF),(0xC66,0xC6F),(0xCE6,0xCEF),(0xD66,0xD6F),(0xDE6,0xDEF),
  (0xE50,0xE59),(0xED0,0xED9),(0xF20,0xF29),(0x1040,0x1049),(0x1090,0x1099),(0x1369,0x1371),(0x17E0,0x17E9),
  (0x1810,0x1819),(0x1946,0x194F),(0x19D0,0x19DA),(0x1A80,0x1A89),(0x1A90,0x1A99),(0x1B50,0x1B59),(0x1BB0,0x1BB9),
  (0x1C40,0x1C49),(0x1C50,0x1C59),(0x2070,0x2070),(0x2074,0x2079),(0x2080,0x2089),(0x2460,0x2468),(0x2474,0x247C),
  (0x2488,0x2490),(0x24EA,0x24EA),(0x24F5,0x24FD),(0x24FF,0x24FF),(0x2776,0x277E),(0x2780,0x2788),(0x278A,0x2792),
  (0xA620,0xA629),(0xA8D0,0xA8D9),(0xA900,0xA909),(0xA9D0,0xA9D9),(0xA9F0,0xA9F9),(0xAA50,0xAA59),(0xABF0,0xABF9),
  (0xFF10,0xFF19),(0x104A0,0x104A9),(0x10A40,0x10A43),(0x10D30,0x10D39),(0x10E60,0x10E68),(0x11052,0x1105A),
  (0x11066,0x1106F),(0x110F0,0x110F9),(0x11136,0x1113F),(0x111D0,0x111D9),(0x112F0,0x112F9),(0x11450,0x11459),
  (0x114D0,0x114D9),(0x11650,0x11659),(0x116C0,0x116C9),(0x11730,0x11739),(0x118E0,0x118E9),(0x11950,0x11959),
  (0x11C50,0x11C59),(0x11D50,0x11D59),(0x11DA0,0x11DA9),(0x16A60,0x16A69),(0x16AC0,0x16AC9),(0x16B50,0x16B59),
  (0x1D7CE,0x1D7FF),(0x1E140,0x1E149),(0x1E2F0,0x1E2F9),(0x1E950,0x1E959),(0x1F100,0x1F10A),(0x1FBF0,0x1FBF9)]

def isDigit (c : Char) : Bool := digitRanges.any (fun r => r.1 ≤ c.toNat && c.toNat ≤ r.2)

def allDigits (text : String) : Bool := text.toList ≠ [] && text.toList.all isDigit

namespace Profile

-- An empty override is none.
def baseUrl (profile : Profile) : String :=
  match profile.baseUrlOverride with
  | some url => if url = "" then profile.environment.baseUrl else url
  | none => profile.environment.baseUrl

def validate (repr : Json → String) (profile : Profile) : Except Exc Unit := do
  if Json.isBlank profile.name then
    throw (.configuration "profile name must not be empty")
  if !memoryIdMatches profile.memoryId then
    throw (.configuration ("memory_id " ++ repr (.str profile.memoryId) ++ " must be 6 characters of A-Z or 0-9"))
  if !("http://".toList <+: profile.baseUrl.toList || "https://".toList <+: profile.baseUrl.toList) then
    throw (.configuration ("base_url " ++ repr (.str profile.baseUrl) ++ " must be an http(s) URL"))
  if profile.baseUrl.toList.getLast? = some '/' then
    throw (.configuration ("base_url " ++ repr (.str profile.baseUrl) ++ " must not end with '/'"))
  match profile.economicCode with
  | some code => if !allDigits code then
      throw (.configuration ("economic_code " ++ repr (.str code) ++ " must be digits"))
  | none => pure ()

def optional : Option String → Json
  | some text => .str text
  | none => .null

def toJson (profile : Profile) : Json := .obj [
  ("name",.str profile.name),("memory_id",.str profile.memoryId),("environment",.str profile.environment.value),
  ("base_url_override",optional profile.baseUrlOverride),("economic_code",optional profile.economicCode)]

/- Why stored data is no profile. Data whose fields are of other types than the class
says, which Python takes as it is, is set apart as `untyped`. -/
inductive Malformed where
  | configuration (message : String)
  | typeError (message : String)
  | untyped (field : String)
  deriving DecidableEq, Repr

def member (data : Dict) (field : String) : Except Malformed Json :=
  match data.lookup field with
  | some v => .ok v
  | none => .error (.configuration ("stored profile is missing field '" ++ field ++ "'"))

def text (field : String) : Json → Except Malformed String
  | .str text => .ok text
  | _ => .error (.untyped field)

def optionalText (field : String) : Option Json → Except Malformed (Option String)
  | none | some .null => .ok none
  | some (.str text) => .ok (some text)
  | some _ => .error (.untyped field)

-- What Python says of `value["name"]` where the value is no dict.
def unsubscriptable : Json → String
  | .arr _ => "list indices must be integers or slices, not str"
  | .str _ => "string indices must be integers, not 'str'"
  | .bool _ => "'bool' object is not subscriptable"
  | .int _ => "'int' object is not subscriptable"
  | .float _ => "'float' object is not subscriptable"
  | _ => "'NoneType' object is not subscriptable"

def fromJson (repr : Json → String) : Json → Except Malformed Profile
  | .obj data => do
    let name ← member data "name"
    let memoryId ← member data "memory_id"
    let environment ← member data "environment"
    let environment ← match Environment.parse repr environment with
      | .ok environment => .ok environment
      | .error (.configuration message) => .error (.configuration message)
      | .error _ => .error (.untyped "environment")
    let name ← text "name" name
    let memoryId ← text "memory_id" memoryId
    let economicCode ← optionalText "economic_code" (data.lookup "economic_code")
    let baseUrlOverride ← optionalText "base_url_override" (data.lookup "base_url_override")
    .ok { name, memoryId, environment, economicCode, baseUrlOverride }
  | v => .error (.typeError (unsubscriptable v))

theorem fromToJson (repr : Json → String) (profile : Profile) : fromJson repr profile.toJson = .ok profile := by
  obtain ⟨name,memoryId,environment,economicCode,baseUrlOverride⟩ := profile
  cases economicCode <;> cases baseUrlOverride <;>
    simp [toJson,fromJson,member,List.lookup_cons,bind,Except.bind,Environment.parseValue,text,optional,optionalText]

def filed (profile : Profile) : Moadian.Profile := ⟨profile.name,profile.memoryId⟩

end Profile
end Moadian.Config
