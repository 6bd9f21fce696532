import DocSql.Proofs.Statement.Row
import DocSql.Proofs.Update.Providers

/-!
Providers of accounts in an inserted row. They share one column, which is written
from the keys of their own if there is any, and only else from the whole of them:
so beside a key of one provider, all that only the whole gives are lost. Main
statement: `Insert.statement_keeps_iff`.
-/
namespace DocSql

open Sql (Expr)

theorem Datum.eq_of_encode_json {name : String} {type? : Option FieldType} {value held : Json}
    (h : Datum.encode name type? value = .ok (.json held)) : held = value := by
  have hmap {α : Type} {f : α → Datum} {work : Except Error α} (hf : ∀ a, f a ≠ .json held)
      (hwork : f <$> work = .ok (.json held)) : held = value := by
    obtain ⟨a, ha⟩ := exists_of_map_eq_ok hwork
    exact absurd ha (hf a)
  have harray (hwork : encodeTextArray name value = .ok (.json held)) : held = value := by
    unfold encodeTextArray at hwork
    dsimp only at hwork
    split at hwork
    · exact hmap (fun _ h => by cases h) hwork
    · cases hwork
  have hplain (hwork : Datum.ofJson value = .json held) : held = value := by
    cases value with
    | arr _ | obj _ =>
      cases hwork
      rfl
    | null | bool _ | str _ => cases hwork
    | num n =>
      change Datum.ofNumber n = _ at hwork
      unfold Datum.ofNumber at hwork
      split at hwork
      · cases hwork
      · cases hwork
  unfold encode at h
  split at h
  · cases h
  · split at h
    · exact harray h
    · split at h
      · unfold infer at h
        split at h
        any_goals exact hmap (fun _ h => by cases h) h
        exact hplain (Except.ok.inj h)
      · unfold encodeAs at h
        split at h
        any_goals exact hmap (fun _ h => by cases h) h
        any_goals exact hplain (Except.ok.inj h)
        · exact harray h
        all_goals cases h <;> rfl

theorem Sql.Expr.eq_of_ofDatum_json {datum : Datum} {held : Json}
    (h : Expr.ofDatum datum = .json held) : datum = .json held := by
  cases datum with
  | json value =>
    cases h
    rfl
  | null | bool _ | int _ | float _ | text _ | textArray _ | timestamp _ | point _ | polygon _ =>
    cases h

namespace Insert

variable {schema : Schema} {document : Entries Json} {s : Statement}

theorem eq_of_expression_json {name : String} {value held : Json}
    (h : expression schema name value = .ok (.json held)) : held = value := by
  obtain ⟨datum, hdatum, hexpr⟩ := map_eq_ok.1 h
  rw [Expr.eq_of_ofDatum_json hexpr] at hdatum
  exact Datum.eq_of_encode_json hdatum

def row (schema : Schema) (document : Entries Json) : Except Error (List (String × Expr)) :=
  (fun exprs => ((columns schema document).map Prod.fst).zip exprs) <$>
    values schema (columns schema document)

def written (schema : Schema) (all : List (String × Expr)) : Statement where
  sql := text schema (all.map Prod.fst) (rowTexts 1 (all.map Prod.snd))
  params := (all.map Prod.snd).flatMap Expr.params

theorem row_of_values {exprs : List Expr}
    (h : values schema (columns schema document) = .ok exprs) :
    row schema document = .ok (((columns schema document).map Prod.fst).zip exprs) ∧
      written schema (((columns schema document).map Prod.fst).zip exprs) =
        ⟨text schema ((columns schema document).map Prod.fst) (rowTexts 1 exprs),
          exprs.flatMap Expr.params⟩ := by
  have hlength : ((columns schema document).map Prod.fst).length = exprs.length := by
    rw [List.length_map, (values_forall₂ h).length_eq]
  unfold row written
  rw [h, List.map_fst_zip hlength.le, List.map_snd_zip hlength.ge]
  exact ⟨rfl, rfl⟩

theorem statement_eq_ok : statement schema document = .ok s ↔
    checkMembers false document = .ok () ∧ columns schema document ≠ [] ∧
      ∃ all, row schema document = .ok all ∧ s = written schema all := by
  rw [statement_ok_iff]
  refine and_congr_right fun _ => and_congr_right fun _ => ?_
  constructor
  · rintro ⟨exprs, hvalues, rfl⟩
    obtain ⟨hrow, hwritten⟩ := row_of_values hvalues
    exact ⟨_, hrow, hwritten.symm⟩
  · rintro ⟨all, hrow, rfl⟩
    obtain ⟨exprs, hvalues, rfl⟩ := map_eq_ok.1 hrow
    exact ⟨exprs, hvalues, (row_of_values hvalues).2⟩

theorem find?_row {all : List (String × Expr)} (h : row schema document = .ok all) (name : String)
    (e : Expr) : Entries.find? all name = some e ↔ ∃ value,
      Entries.find? (columns schema document) name = some value ∧
        expression schema name value = .ok e := by
  obtain ⟨exprs, hvalues, rfl⟩ := map_eq_ok.1 h
  have hall := values_forall₂ hvalues
  clear hvalues h
  generalize columns schema document = all at hall ⊢
  induction hall with
  | nil => simp
  | @cons column found _ _ hfound _ ih =>
    obtain ⟨key, value⟩ := column
    rw [List.map_cons, List.zip_cons_cons, Entries.find?_cons, Entries.find?_cons]
    by_cases hkey : key = name
    · subst hkey
      simp [hfound.1]
    · rw [if_neg hkey, if_neg hkey]
      exact ih

theorem find?_columns_own (hsorted : (Entries.keys document).Pairwise (· < ·))
    (h : Update.ownLinks document ≠ []) :
    Entries.find? (columns schema document) "authData" =
      some (.obj (Update.ownLinks document)) := by
  have hproviders : providers document = Update.ownLinks document :=
    Entries.ofList_of_sorted (Update.ownLinks_sorted hsorted)
  unfold columns
  rw [hproviders]
  split
  next hnone => exact absurd hnone h
  next =>
    rw [Entries.find?_append, Entries.find?_filter_key _ fun name => decide (name ≠ "authData")]
    rfl

theorem find?_columns_whole (h : Update.ownLinks document = []) :
    Entries.find? (columns schema document) "authData" =
      if (schema.field? "authData").any FieldType.isRelation then none
      else Entries.find? document "authData" := by
  have hproviders : providers document = [] := by
    change Entries.ofList (Update.ownLinks document) = []
    rw [h]
    rfl
  unfold columns
  rw [hproviders]
  refine (Entries.find?_filter_key document (fun name => (Update.provider? name).isNone &&
    !(schema.field? name).any FieldType.isRelation) "authData").trans ?_
  rw [Update.provider?_authData]
  cases (schema.field? "authData").any FieldType.isRelation with
  | true => rfl
  | false => rfl

/-- What a document gives a provider: by a key of its own, or else in the whole. -/
def identity? (document : Entries Json) (provider : String) : Option Json :=
  (Entries.find? document ("_auth_data_" ++ provider)).or
    (Entries.find? (Update.wholeLinks document) provider)

def rowLinks (document : Entries Json) : Entries Json :=
  if (Update.ownLinks document).isEmpty then Update.wholeLinks document
  else Update.ownLinks document

/-- The column of the providers takes an object of them as JSON. One that is
declared with a type of another form reads something else out of it, or fails. -/
def TakesObject (schema : Schema) (held : Entries Json) : Prop :=
  expression schema "authData" (.obj held) = .ok (.json (.obj held))

def Keeps (all : List (String × Expr)) (provider : String) (identity : Json) : Prop :=
  ∃ held, Entries.find? all "authData" = some (.json (.obj held)) ∧
    Entries.find? held provider = some identity

theorem keeps_iff {all : List (String × Expr)} (h : row schema document = .ok all)
    (provider : String) (identity : Json) : Keeps all provider identity ↔ ∃ held,
      Entries.find? (columns schema document) "authData" = some (.obj held) ∧
        TakesObject schema held ∧ Entries.find? held provider = some identity := by
  constructor
  · rintro ⟨held, hcolumn, hfound⟩
    obtain ⟨value, hvalue, hexpr⟩ := (find?_row h "authData" _).1 hcolumn
    obtain rfl := eq_of_expression_json hexpr
    exact ⟨held, hvalue, hexpr, hfound⟩
  · rintro ⟨held, hvalue, htakes, hfound⟩
    exact ⟨held, (find?_row h "authData" _).2 ⟨_, hvalue, htakes⟩, hfound⟩

theorem whole_of_links {provider : String} {identity : Json}
    (h : Entries.find? (Update.wholeLinks document) provider = some identity) :
    Entries.find? document "authData" = some (.obj (Update.wholeLinks document)) := by
  unfold Update.wholeLinks at h ⊢
  cases hfound : Entries.find? document "authData" with
  | none =>
    rw [hfound] at h
    cases h
  | some value =>
    cases value with
    | obj held => rfl
    | null | bool _ | num _ | str _ | arr _ =>
      rw [hfound] at h
      cases h

theorem takesObject_of_object (h : schema.field? "authData" = some .object) (held : Entries Json) :
    TakesObject schema held := by
  have hstored : schema.toStorage.field? "authData" = some .object :=
    (Schema.field?_toStorage schema (by decide)).trans h
  unfold TakesObject expression
  rw [Schema.find?_columns_of_declared hstored rfl]
  rfl

/-- An inserted document keeps a provider just where it has a key of its own, or
where no provider has one and the whole has a column, and where that column
takes objects. All others that the document gives are lost. -/
theorem statement_keeps_iff (hsorted : (Entries.keys document).Pairwise (· < ·))
    (hs : statement schema document = .ok s) :
    ∃ all, row schema document = .ok all ∧ s = written schema all ∧
      ∀ provider identity, identity? document provider = some identity →
        (Keeps all provider identity ↔
          (Entries.contains document ("_auth_data_" ++ provider) ∨
            Update.ownLinks document = [] ∧
              (schema.field? "authData").any FieldType.isRelation = false) ∧
          TakesObject schema (rowLinks document)) := by
  obtain ⟨-, -, all, hrow, hwritten⟩ := statement_eq_ok.1 hs
  refine ⟨all, hrow, hwritten, fun provider identity hgiven => ?_⟩
  unfold identity? at hgiven
  rw [keeps_iff hrow, Entries.contains, ← Update.find?_ownLinks]
  rw [← Update.find?_ownLinks] at hgiven
  by_cases hown : Update.ownLinks document = []
  · -- Only the whole can give the provider, so it is an object.
    have hlinks : rowLinks document = Update.wholeLinks document := by
      rw [rowLinks, hown]
      rfl
    rw [find?_columns_whole hown, hlinks]
    simp only [hown, Entries.find?_nil, Option.none_or] at hgiven
    rw [whole_of_links hgiven]
    cases (schema.field? "authData").any FieldType.isRelation with
    | true => simp [hown]
    | false => simp [hown, hgiven]
  · -- The column is made of the keys, so the whole does not matter.
    have hlinks : rowLinks document = Update.ownLinks document := by
      rw [rowLinks, if_neg (by simpa using hown)]
    rw [find?_columns_own hsorted hown, hlinks]
    cases hfound : Entries.find? (Update.ownLinks document) provider with
    | none => simp [hown, hfound]
    | some own =>
      rw [hfound, Option.some_or] at hgiven
      simp [hfound, hgiven]

def accountSchema : Schema where
  className := "_User"
  fields := [("authData", .object)]

/-- Two providers by keys of their own are both kept, one of them instead of its
identity in the whole. -/
theorem own_providers_kept :
    let document : Entries Json := [("_auth_data_facebook", .obj [("id", .str "1")]),
      ("_auth_data_github", .obj [("id", .str "2")]),
      ("authData", .obj [("facebook", .obj [("id", .str "3")])])]
    (Entries.keys document).Pairwise (· < ·) ∧
    ∃ s all, statement accountSchema document = .ok s ∧ s = written accountSchema all ∧
      Keeps all "facebook" (.obj [("id", .str "1")]) ∧
      Keeps all "github" (.obj [("id", .str "2")]) := by
  intro document
  have hsorted : (Entries.keys document).Pairwise (· < ·) := by decide
  have hcheck : checkMembers false document = .ok () := by decide
  obtain ⟨s, hs⟩ : ∃ s, statement accountSchema document = .ok s :=
    ⟨_, statement_eq_ok.2 ⟨hcheck, List.cons_ne_nil _ _, _, rfl, rfl⟩⟩
  obtain ⟨all, -, hwritten, hkeeps⟩ := statement_keeps_iff hsorted hs
  have htakes : ∀ held, TakesObject accountSchema held := takesObject_of_object rfl
  exact ⟨hsorted, _, all, hs, hwritten, (hkeeps "facebook" _ rfl).2 ⟨.inl (by decide), htakes _⟩,
    (hkeeps "github" _ rfl).2 ⟨.inl (by decide), htakes _⟩⟩

/-- A provider that only the whole gives is lost beside another with its own key. -/
theorem whole_provider_lost :
    let document : Entries Json := [("_auth_data_facebook", .obj [("id", .str "1")]),
      ("authData", .obj [("twitter", .obj [("id", .str "2")])])]
    ∃ all, statement accountSchema document = .ok (written accountSchema all) ∧
      written accountSchema all = ⟨"INSERT INTO \"_User\" (\"authData\") VALUES ($1::jsonb)",
        [.json (.obj [("facebook", .obj [("id", .str "1")])])]⟩ ∧
      identity? document "twitter" = some (.obj [("id", .str "2")]) ∧
      ¬Keeps all "twitter" (.obj [("id", .str "2")]) := by
  intro document
  have hcheck : checkMembers false document = .ok () := by decide
  refine ⟨[("authData", .json (.obj [("facebook", .obj [("id", .str "1")])]))],
    statement_eq_ok.2 ⟨hcheck, List.cons_ne_nil _ _, _, rfl, rfl⟩, by rfl, rfl, ?_⟩
  rintro ⟨held, hcolumn, hfound⟩
  cases hcolumn
  cases hfound

end Insert
end DocSql
