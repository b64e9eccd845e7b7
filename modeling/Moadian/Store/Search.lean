import Moadian.Fts5.Literals
import Moadian.Store.Catalogue

/-! `CatalogueStore.search`, and the MATCH expression it makes of what was typed. -/
namespace Moadian.Catalogue
open Fts5

def escaped (token : List Char) : List Char := token.flatMap (fun c => if c = '"' then ['"','"'] else [c])

def ftsQuery (u : Persian.Spelling) (text : String) : String :=
  let tokens := Persian.words (Persian.fold u text)
  if tokens = [] then ""
  else String.ofList ([' ','A','N','D',' '].intercalate (tokens.map (fun t => '"' :: (escaped t ++ ['"','*']))))

def maxResults : Int := 100

def shorter (a b : CatalogueRow) : Bool :=
  a.stuffId.length < b.stuffId.length || (a.stuffId.length = b.stuffId.length && a.stuffId ≤ b.stuffId)

/- `ranked` answers a query from the index: the rowids it matches, best first. An
expression that does not parse is an error of the database. -/
def search (u : Persian.Spelling) (ranked : Query → List (Int × String) → List Int) (d : Database) (query : String)
    (limit : Int) : Except String (List CatalogueEntry) :=
  let limit := max 1 (min limit maxResults)
  if query = "" ∨ RuleEngine.strip query = [] then .ok []
  else if Persian.isDigits u query then
    let needle := (Persian.foldDigits u.toUnicode query).toList.filter (fun c => c ≠ ' ')
    let rows := (d.catalogue.select (fun row => row.isCurrent = 1 && needle.isPrefixOf row.stuffId.toList)).map Prod.snd
    .ok (((rows.mergeSort shorter).take limit.toNat).map entry)
  else
    let expression := ftsQuery u query
    if expression = "" then .ok []
    else match parse expression.toList with
      | none => .error "fts5: syntax error"
      | some q =>
        let rows := (ranked q d.index).filterMap (fun id => (d.catalogue.get id).filter (fun row => row.isCurrent = 1))
        .ok ((rows.take limit.toNat).map entry)

theorem ftsJoined {u : Persian.Spelling} {text : String} (some_ : Persian.words (Persian.fold u text) ≠ []) :
    (ftsQuery u text).toList = joined (Persian.words (Persian.fold u text)) := by
  rw [ftsQuery,if_neg some_,String.toList_ofList]
  rfl

theorem noTextRead (u : Persian.Spelling) (query : String) (plain : Char.ofNat 0 ∉ query.toList) :
    (Persian.words (Persian.fold u query) ≠ [] → parse (ftsQuery u query).toList =
        some (conjunction ((Persian.words (Persian.fold u query)).map prefixed))) ∧
      (Persian.words (Persian.fold u query) = [] → ftsQuery u query = "" ∧
        ∀ ranked d limit, search u ranked d query limit = .ok []) := by
  constructor
  · intro some_
    rw [ftsJoined some_]
    refine parseJoined some_ (fun word inside nul => ?_)
    exact Persian.foldNul u plain (Persian.wordsPart inside _ nul)
  · intro bare
    have empty : ftsQuery u query = "" := if_pos bare
    refine ⟨empty,fun ranked d limit => ?_⟩
    have wordy : Persian.isDigits u query = false := by
      cases number : Persian.isDigits u query with
      | false => rfl
      | true => exact absurd bare (Persian.digitsFold u number)
    unfold search
    dsimp only
    split
    · rfl
    · rw [wordy,if_neg Bool.false_ne_true]

theorem noTextReadOperators : parse (ftsQuery Persian.Example.verbatim "x\" :* (نرم").toList =
    some (conjunction ([['x','"'],[':','*'],['(','ن','ر','م']].map prefixed)) := by
  have tokens : Persian.words (Persian.fold Persian.Example.verbatim "x\" :* (نرم") =
      [['x','"'],[':','*'],['(','ن','ر','م']] := by decide +kernel
  have whole := (noTextRead Persian.Example.verbatim "x\" :* (نرم" (by decide)).1 (by rw [tokens]; decide)
  rw [tokens] at whole
  exact whole

end Moadian.Catalogue
