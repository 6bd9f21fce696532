import DocSql.Proofs.Sql.JsonObjects
import DocSql.Proofs.Update.Reading
import DocSql.Proofs.Update.Replacement

/-!
Providers of accounts, which share one column. Each of them is a key of its own
or a member of the whole, and an update of them is one expression with a call
for each provider around those before it. Main statements: the expression makes
of the stored providers what the entries ask for, one after the other
(`Update.compile_links`); and a value with an operation is read as the operation
for every field but the whole, which takes it for providers
(`Update.ofJson_operation_iff`).
-/
namespace DocSql

open Sql (Cell Expr Valuation)

namespace Update

variable {name provider : String}

theorem provider?_eq_some : provider? name = some provider ↔ name = "_auth_data_" ++ provider := by
  have hlist : name = "_auth_data_" ++ provider ↔ name.toList = providerKey ++ provider.toList := by
    rw [← String.toList_inj, String.toList_append]
    rfl
  rw [hlist]
  unfold provider?
  constructor
  · intro h
    split at h
    next hstart =>
      obtain ⟨rest, hrest⟩ := List.isPrefixOf_iff_prefix.1 hstart
      cases h
      rw [← hrest, List.drop_left, String.toList_ofList]
    next => cases h
  · intro h
    have hstart : providerKey.isPrefixOf name.toList :=
      List.isPrefixOf_iff_prefix.2 ⟨_, h.symm⟩
    rw [if_pos hstart, h, List.drop_left, String.ofList_toList]

theorem lt_authData (h : provider? name = some provider) : name < "authData" := by
  rw [provider?_eq_some.1 h, String.lt_iff, String.toList_append]
  exact .rel (by decide)

theorem provider?_authData : provider? "authData" = none := by decide

theorem provider?_inner {field : String} (hp : provider? field = none) (key : String) :
    provider? (field ++ "." ++ key) = none := by
  cases hfound : provider? (field ++ "." ++ key) with
  | none => rfl
  | some provider =>
    have hlist := congrArg String.toList (provider?_eq_some.1 hfound)
    simp only [String.toList_append, List.append_assoc] at hlist
    -- Either the prefix ends within the field, or the dot stands in it.
    rcases List.append_eq_append_iff.1 hlist with ⟨rest, hstart, hrest⟩ | ⟨rest, hfield, -⟩
    · cases rest with
      | nil =>
        have hwhole : field = "_auth_data_" ++ "" := by
          rw [← String.toList_inj, String.toList_append]
          simpa using hstart.symm
        cases hp.symm.trans (provider?_eq_some.2 hwhole)
      | cons c rest =>
        have hdot : c = '.' := (List.cons.inj hrest).1.symm
        have hmem : '.' ∈ "_auth_data_".toList := by
          rw [hstart, hdot]
          exact List.mem_append_right _ List.mem_cons_self
        exact absurd hmem (by decide)
    · have hown : field = "_auth_data_" ++ String.ofList rest := by
        rw [← String.toList_inj, hfield]
        simp
      cases hp.symm.trans (provider?_eq_some.2 hown)

end Update

namespace Change

/-- The providers after each entry has taken its provider away and, unless it
removes it, put its own value there. -/
def linked (stored : Entries Jsonb) (entries : List (String × Option Json)) : Entries Jsonb :=
  entries.foldl (fun all (provider, value?) =>
    value?.elim (Entries.erase all provider) fun value =>
      Entries.insert (Entries.erase all provider) provider (.given value)) stored

theorem find?_linked (stored : Entries Jsonb) (entries : List (String × Option Json))
    (provider : String) : Entries.find? (linked stored entries) provider =
      (Entries.find? entries.reverse provider).elim (Entries.find? stored provider)
        (·.map .given) := by
  unfold linked
  induction entries generalizing stored with
  | nil => rfl
  | cons entry rest ih =>
    obtain ⟨name, value?⟩ := entry
    rw [List.foldl_cons, ih, List.reverse_cons, Entries.find?_append, Entries.find?_cons,
      Entries.find?_nil]
    cases Entries.find? rest.reverse provider with
    | some later => rfl
    | none =>
      by_cases hname : name = provider
      · subst hname
        cases value? with
        | none => simp [Entries.find?_erase]
        | some value => simp
      · cases value? with
        | none => simp [hname, Entries.find?_erase, Ne.symm hname]
        | some value =>
          simp [hname, Entries.find?_insert, Entries.find?_erase, Ne.symm hname]

def entryParams (entry : String × Option Json) : List Datum :=
  [.text entry.1, (entry.2.map Datum.json).getD .null]

section Value

variable {stored : String → Option (Entries Json)}

theorem value_entry {e : Expr} {members : Entries Jsonb}
    (h : (Expr.coalesce e .emptyObject).members? stored = some members)
    (entry : String × Option Json) :
    (providersExpr e [entry]).value (.ofObjects stored) =
      some (.jsonb (.object (linked members [entry]))) := by
  obtain ⟨provider, value?⟩ := entry
  change Option.map (Cell.cast "jsonb") _ = _
  rw [Expr.value_setKey provider h]
  cases value? with
  | none => rfl
  | some value => rfl

theorem members?_orEmpty_of_value {e : Expr} {members : Entries Jsonb}
    (h : e.value (.ofObjects stored) = some (.jsonb (.object members))) :
    (Expr.coalesce e .emptyObject).members? stored = some members := by
  refine Expr.members?_of_value ?_
  rw [Expr.value_coalesce, h]
  rfl

theorem providersExpr_value {entries : List (String × Option Json)} (hne : entries ≠ []) {e : Expr}
    {members : Entries Jsonb}
    (h : (Expr.coalesce e .emptyObject).members? stored = some members) :
    (providersExpr e entries).value (.ofObjects stored) =
      some (.jsonb (.object (linked members entries))) := by
  induction entries generalizing e members with
  | nil => exact absurd rfl hne
  | cons entry rest ih =>
    have hfirst := value_entry h entry
    cases rest with
    | nil => exact hfirst
    | cons next rest =>
      exact ih (List.cons_ne_nil next rest) (members?_orEmpty_of_value hfirst)

end Value

theorem providersExpr_params (e : Expr) (entries : List (String × Option Json)) :
    (providersExpr e entries).params = e.params ++ entries.flatMap entryParams := by
  unfold providersExpr
  induction entries generalizing e with
  | nil => rw [List.foldl_nil, List.flatMap_nil, List.append_nil]
  | cons entry rest ih =>
    rw [List.foldl_cons, ih, List.flatMap_cons, ← List.append_assoc]
    congr 1
    change ((e.params ++ []) ++ [_]) ++ [_] = e.params ++ [_, _]
    rw [List.append_nil, List.append_assoc]
    rfl

theorem providersExpr_isGrouped (name : String) (entries : List (String × Option Json)) :
    (providersExpr (.column name) entries).IsGrouped := by
  refine List.foldlRecOn entries _ (motive := Expr.IsGrouped) trivial fun e he entry _ => ?_
  have hstored : (Expr.coalesce e .emptyObject).IsGrouped := ⟨he, Expr.Binds.emptyObject.grouped⟩
  have hparam (d : Datum) (type : String) : (Expr.cast (.param d) type).IsGrouped :=
    (((Expr.Binds.param d).mono (by decide)).cast type).grouped
  have hcall := Expr.Binds.apply₃ "json_object_set_key" hstored (hparam (.text entry.1) "text")
    (hparam ((entry.2.map Datum.json).getD .null) "jsonb")
  exact ((hcall.mono (by decide)).cast "jsonb").grouped

end Change

namespace Update

def IsLink (member : Member) : Prop :=
  (∃ provider, provider? member.1 = some provider) ∨
    member.1 = "authData" ∧ ∃ whole, member.2 = .obj whole

def ownLinks (members : List Member) : List (String × Json) :=
  members.filterMap fun member => (provider? member.1).map fun provider => (provider, member.2)

def wholeLinks (members : List Member) : List (String × Json) :=
  ((Entries.find? members "authData").bind Json.obj?).getD []

/-- Keys of providers come first, then the members of the whole. -/
def links (members : List Member) : List (String × Json) := ownLinks members ++ wholeLinks members

theorem find?_ownLinks (document : Entries Json) (provider : String) :
    Entries.find? (ownLinks document) provider =
      Entries.find? document ("_auth_data_" ++ provider) := by
  induction document with
  | nil => rfl
  | cons member rest ih =>
    obtain ⟨name, value⟩ := member
    rw [Entries.find?_cons, ← ih, ownLinks, List.filterMap_cons]
    cases hname : provider? name with
    | none =>
      have hother : name ≠ "_auth_data_" ++ provider := by
        intro h
        cases hname.symm.trans (provider?_eq_some.2 h)
      rw [if_neg hother]
      rfl
    | some other =>
      obtain rfl := provider?_eq_some.1 hname
      change Entries.find? ((other, value) :: ownLinks rest) provider = _
      simp only [Entries.find?_cons, String.append_right_inj]

theorem lt_of_append_lt {start name other : String} (h : start ++ name < start ++ other) :
    name < other := by
  rw [String.lt_iff, String.toList_append, String.toList_append] at h
  rw [String.lt_iff]
  generalize start.toList = front at h
  induction front with
  | nil => exact h
  | cons c front ih =>
    rcases List.cons_lt_cons_iff.1 h with hlt | ⟨-, hrest⟩
    · exact absurd hlt (Char.lt_irrefl c)
    · exact ih hrest

theorem ownLinks_sorted {document : Entries Json}
    (h : (Entries.keys document).Pairwise (· < ·)) :
    (Entries.keys (ownLinks document)).Pairwise (· < ·) := by
  have hkeys : Entries.keys (ownLinks document) = (Entries.keys document).filterMap provider? := by
    unfold Entries.keys ownLinks
    rw [List.map_filterMap, List.filterMap_map]
    congr 1
    funext member
    cases hname : provider? member.1 with
    | none => simp [hname]
    | some provider => simp [hname]
  rw [hkeys, List.pairwise_filterMap]
  refine h.imp fun {name other} hlt provider hprovider later hlater => ?_
  rw [provider?_eq_some.1 hprovider, provider?_eq_some.1 hlater] at hlt
  exact lt_of_append_lt hlt

/-- What becomes of a provider when this is the last that a document gives it. -/
inductive Linked (stored : Entries Json) (provider : String) : Option Json → Option Jsonb → Prop
  | kept : Linked stored provider none ((Entries.find? stored provider).map .given)
  | removed {value : Json}
    (h : value = .null ∨ Change.operation? value = some "Delete") :
    Linked stored provider (some value) none
  | set {value : Json} (hn : value ≠ .null) (hd : Change.operation? value ≠ some "Delete") :
    Linked stored provider (some value) (some (.given value))

theorem Linked.unique {stored : Entries Json} {last : Option Json} {held other : Option Jsonb}
    (h : Linked stored provider last held) (ho : Linked stored provider last other) :
    held = other := by
  cases h with
  | kept =>
    cases ho with
    | kept => rfl
  | removed hremoves =>
    cases ho with
    | removed => rfl
    | set hn hd => exact absurd hremoves (not_or.2 ⟨hn, hd⟩)
  | set hn hd =>
    cases ho with
    | removed hremoves => exact absurd hremoves (not_or.2 ⟨hn, hd⟩)
    | set => rfl

variable {members : List Member} {schema : Schema}

theorem given_eq_links (hsorted : (Entries.keys members).Pairwise (· < ·))
    (hlinks : ∀ member ∈ members, IsLink member) :
    given members = (links members).map fun link => (link.1, providerValue link.2) := by
  induction members with
  | nil => rfl
  | cons member rest ih =>
    obtain ⟨name, value⟩ := member
    obtain ⟨hbefore, hrest⟩ := List.pairwise_cons.1 hsorted
    rcases hlinks (name, value) List.mem_cons_self with ⟨provider, hprovider⟩ | ⟨rfl, whole, rfl⟩
    · have hname : name ≠ "authData" := by
        rintro rfl
        cases provider?_authData.symm.trans hprovider
      have hgives : providers? name value = some [(provider, providerValue value)] := by
        unfold providers?
        rw [hprovider]
      have hown : ownLinks ((name, value) :: rest) = (provider, value) :: ownLinks rest := by
        simp [ownLinks, hprovider]
      have hwhole : wholeLinks ((name, value) :: rest) = wholeLinks rest := by
        rw [wholeLinks, Entries.find?_cons, if_neg hname]
        rfl
      have hgiven : given ((name, value) :: rest) =
          (provider, providerValue value) :: given rest := by
        simp [given, hgives]
      rw [hgiven, links, hown, hwhole, ih hrest fun other ho =>
        hlinks other (List.mem_cons_of_mem _ ho)]
      rfl
    · -- Nothing that gives providers comes behind the whole of them.
      have hend : rest = [] := by
        refine List.eq_nil_iff_forall_not_mem.2 fun other ho => ?_
        have hlater : "authData" < other.1 := hbefore other.1 (List.mem_map_of_mem ho)
        rcases hlinks other (List.mem_cons_of_mem _ ho) with ⟨provider, hprovider⟩ | ⟨hsame, -⟩
        · exact String.lt_asymm hlater (lt_authData hprovider)
        · exact String.lt_irrefl _ (hsame ▸ hlater)
      subst hend
      simp [given, providers?, provider?_authData, links, ownLinks, wholeLinks, Entries.find?_cons,
        Json.obj?]

theorem IsLink.providers?_isSome {member : Member} (h : IsLink member) :
    (providers? member.1 member.2).isSome := by
  obtain ⟨name, value⟩ := member
  rcases h with ⟨provider, hprovider⟩ | ⟨rfl, whole, rfl⟩
  · unfold providers?
    rw [hprovider]
    rfl
  · simp [providers?, provider?_authData]

theorem ofJson_links (hsorted : (Entries.keys members).Pairwise (· < ·))
    (hlinks : ∀ member ∈ members, IsLink member) :
    ofJson (.obj members) = .ok (finish [] ((links members).map fun link =>
      (link.1, providerValue link.2))) := by
  have hcolumns : columnKeys members = [] := List.filter_eq_nil_iff.2 fun member hm => by
    simpa using Option.isSome_iff_ne_none.1 (hlinks member hm).providers?_isSome
  rw [ofJson_eq, hcolumns, given_eq_links hsorted hlinks]
  rfl

theorem linked_providerValue (stored : Entries Json) (provider : String) (last : Option Json) :
    Linked stored provider last ((last.map providerValue).elim
      ((Entries.find? stored provider).map .given) (·.map .given)) := by
  cases last with
  | none => exact .kept
  | some value =>
    unfold providerValue
    by_cases hremoves : value.isNull || Change.operation? value == some "Delete"
    · rw [Option.map_some, if_pos hremoves]
      refine .removed ?_
      simp only [Bool.or_eq_true, beq_iff_eq] at hremoves
      exact hremoves.imp_left fun hnull => by
        cases value <;> first | rfl | cases hnull
    · rw [Option.map_some, if_neg hremoves]
      simp only [Bool.or_eq_true, beq_iff_eq, not_or] at hremoves
      refine .set ?_ hremoves.2
      rintro rfl
      exact hremoves.1 rfl

/-- A document of providers is accepted if it gives any, and compiles to an
expression for the column of them all with two parameters for each, whose text
groups as it is meant. Read with the parameters where its placeholders point, it
makes of the stored providers, or of none, what the last entry of each asks for,
and leaves all others as they are. -/
theorem compile_links (hsorted : (Entries.keys members).Pairwise (· < ·))
    (hlinks : ∀ member ∈ members, IsLink member) (first : Nat) :
    ((∃ made, compile schema (.obj members) first = .ok made) ↔ links members ≠ []) ∧
    ∀ text params, compile schema (.obj members) first = .ok (text, params) →
      params = (links members).flatMap (fun link =>
        Change.entryParams (link.1, providerValue link.2)) ∧
      ∃ e : Expr, assigned schema (.obj members) = .ok [⟨"authData", e⟩] ∧ e.IsGrouped ∧
        text = Sql.identifier "authData" ++ " = " ++ e.textFrom (max first 1) ∧
        ∀ stored : String → Option (Entries Json), ∃ result,
          e.valueFrom (.ofObjects stored) (Expr.boundFrom (max first 1) params) (max first 1) =
            some (.jsonb (.object result)) ∧
          ∀ provider, Linked ((stored "authData").getD []) provider
            (Entries.find? (links members).reverse provider) (Entries.find? result provider) := by
  have hread := ofJson_links hsorted hlinks
  by_cases hnone : links members = []
  · have hfails : compile schema (.obj members) first =
        .error (.invalidQuery "update has no assignable fields") := by
      unfold compile
      rw [hread, hnone]
      rfl
    rw [hfails]
    exact ⟨⟨nofun, fun h => absurd hnone h⟩, nofun⟩
  · generalize hentries : ((links members).map fun link => (link.1, providerValue link.2)) = entries
      at hread
    have hne : entries ≠ [] := by
      rw [← hentries]
      simpa using hnone
    have hsingle : ofJson (.obj members) = .ok [("authData", .providers entries)] := by
      rw [hread, finish, List.isEmpty_eq_false_iff.2 hne]
      rfl
    obtain ⟨hassigned, hcompile⟩ : assigned schema (.obj members) = _ ∧
        compile schema (.obj members) first = _ := compile_single hsingle rfl first
    rw [hcompile]
    refine ⟨⟨fun _ => hnone, fun _ => ⟨_, rfl⟩⟩, fun text params hmade => ?_⟩
    cases hmade
    refine ⟨?_, _, hassigned, Change.providersExpr_isGrouped "authData" entries, rfl, fun stored =>
      ⟨Change.linked (Entries.mapValues .given ((stored "authData").getD [])) entries, ?_,
        fun provider => ?_⟩⟩
    · rw [Change.providersExpr_params, ← hentries, List.flatMap_map]
      rfl
    · rw [Expr.valueFrom_params]
      exact Change.providersExpr_value hne (Expr.members?_orEmpty "authData")
    · have hlast : Entries.find? entries.reverse provider =
          (Entries.find? (links members).reverse provider).map providerValue := by
        rw [← hentries, ← List.map_reverse]
        exact Entries.find?_mapValues providerValue _ provider
      rw [Change.find?_linked, hlast, Entries.find?_mapValues]
      exact linked_providerValue _ provider _

def relinked : List Member :=
  [("_auth_data_facebook", .obj [("id", .str "1")]), ("_auth_data_twitter", .null),
    ("authData", .obj [("facebook", .obj [("id", .str "2")]),
      ("github", .obj [("__op", .str "Delete")])])]

theorem relinked_isLink : ∀ member ∈ relinked, IsLink member := by
  simp only [relinked, List.forall_mem_cons]
  exact ⟨.inl ⟨"facebook", by decide⟩, .inl ⟨"twitter", by decide⟩, .inr ⟨rfl, _, rfl⟩, nofun⟩

/-- The later identity stays, the two others go, and a fourth provider is kept. -/
theorem relinked_providers :
    let accounts : Entries Json := [("github", .int 3), ("google", .int 4), ("twitter", .int 5)]
    ((Entries.keys relinked).Pairwise (· < ·) ∧ ∀ member ∈ relinked, IsLink member) ∧
    ∃ text params e, compile {} (.obj relinked) 1 = .ok (text, params) ∧
      text = Sql.identifier "authData" ++ " = " ++ Expr.textFrom 1 e ∧ ∃ result,
      e.valueFrom (.ofObjects fun _ => some accounts) (Expr.boundFrom 1 params) 1 =
        some (.jsonb (.object result)) ∧
      Entries.find? result "facebook" = some (.given (.obj [("id", .str "2")])) ∧
      Entries.find? result "github" = none ∧
      Entries.find? result "google" = some (.given (.int 4)) ∧
      Entries.find? result "twitter" = none := by
  intro accounts
  have hsorted : (Entries.keys relinked).Pairwise (· < ·) := by decide
  obtain ⟨haccepted, hmeant⟩ := @compile_links relinked {} hsorted relinked_isLink 1
  obtain ⟨⟨text, params⟩, hcompile⟩ := haccepted.2 (by decide)
  obtain ⟨-, e, -, -, htext, hvalue⟩ := hmeant text params hcompile
  obtain ⟨result, hresult, hlinked⟩ := hvalue fun _ => some accounts
  refine ⟨⟨hsorted, relinked_isLink⟩, text, params, e, hcompile, htext, result, hresult,
    ?_, ?_, ?_, ?_⟩
  · exact (hlinked "facebook").unique (.set nofun (by decide))
  · exact (hlinked "github").unique (.removed (.inr rfl))
  · exact (hlinked "google").unique .kept
  · exact (hlinked "twitter").unique (.removed (.inl rfl))

variable {value : Json} {operation : String}

theorem mem_of_operation? (h : Change.operation? value = some operation) :
    ∃ members, value = .obj members ∧ ("__op", .str operation) ∈ members := by
  cases value with
  | obj members =>
    refine ⟨members, rfl, ?_⟩
    obtain ⟨held, hfound, htext⟩ := Option.bind_eq_some_iff.1 h
    cases held with
    | str text =>
      cases htext
      exact Entries.mem_of_find? hfound
    | null | bool _ | num _ | arr _ | obj _ => cases htext
  | null | bool _ | num _ | str _ | arr _ => cases h

theorem ofJson_ne_set {change : Change} (h : Change.operation? value = some operation)
    (hc : Change.ofJson value = .ok change) (held : Json) : change ≠ .set held := by
  rintro rfl
  cases (Change.ofJson_set hc).1.symm.trans h

/-- A value with an operation is read as the operation, or is refused, for every
field but the whole of the providers, which takes the operation for one of them. -/
theorem ofJson_operation_iff (hd : Sql.isDotted name = false) (hp : provider? name = none)
    (hop : Change.operation? value = some operation) :
    ((∀ update, ofJson (.obj [(name, value)]) = .ok update →
      ∃ change, Change.ofJson value = .ok change ∧ update = [(name, change)]) ↔
        name ≠ "authData") ∧
    (name ≠ "authData" →
      ofJson (.obj [(name, value)]) = (fun change => [(name, change)]) <$> Change.ofJson value ∧
      (operation = "Delete" → ofJson (.obj [(name, value)]) = .ok [(name, .unset)]) ∧
      ∀ change, Change.ofJson value = .ok change → ∀ held, change ≠ .set held) ∧
    (name = "authData" → ∃ entries,
      ofJson (.obj [(name, value)]) = .ok [(name, .providers entries)] ∧
      ("__op", some (.str operation)) ∈ entries) := by
  have hfield (hn : name ≠ "authData") : ofJson (.obj [(name, value)]) =
      (fun change => [(name, change)]) <$> Change.ofJson value :=
    ofJson_plain hd (providers?_plain hp hn value)
  have hwhole (hn : name = "authData") : ∃ entries,
      ofJson (.obj [(name, value)]) = .ok [(name, .providers entries)] ∧
        ("__op", some (.str operation)) ∈ entries := by
    subst hn
    obtain ⟨members, rfl, hmem⟩ := mem_of_operation? hop
    refine ⟨members.map fun member => (member.1, providerValue member.2), ?_,
      List.mem_map_of_mem hmem⟩
    cases members with
    | nil => cases hmem
    | cons member rest => rfl
  have hunset (hdelete : operation = "Delete") : Change.ofJson value = .ok .unset := by
    obtain ⟨members, rfl, -⟩ := mem_of_operation? hop
    unfold Change.ofJson
    rw [hop, hdelete]
    rfl
  refine ⟨⟨fun hread hn => ?_, fun hn update hupdate => ?_⟩, fun hn => ⟨hfield hn,
    fun hdelete => by rw [hfield hn, hunset hdelete]; rfl, fun change => ofJson_ne_set hop⟩, hwhole⟩
  · obtain ⟨entries, hproviders, -⟩ := hwhole hn
    obtain ⟨change, hchange, hsame⟩ := hread _ hproviders
    exact Change.ofJson_ne_providers hchange entries (by cases hsame; rfl)
  · rw [hfield hn] at hupdate
    obtain ⟨change, hchange, rfl⟩ := map_eq_ok.1 hupdate
    exact ⟨change, hchange, rfl⟩

/-- A field is emptied by an operation. -/
theorem profile_unset :
    let removal : Json := .obj [("__op", .str "Delete")]
    (Sql.isDotted "profile" = false ∧ provider? "profile" = none ∧
      Change.operation? removal = some "Delete") ∧
    ofJson (.obj [("profile", removal)]) = .ok [("profile", .unset)] := by
  intro removal
  have hfield := (ofJson_operation_iff (by decide) (by decide) (rfl : Change.operation? removal =
    some "Delete")).2.1 (by decide : "profile" ≠ "authData")
  exact ⟨⟨by decide, by decide, rfl⟩, hfield.2.1 rfl⟩

/-- The providers are not emptied by it: they get one more, which is named after
the tag of operations. -/
theorem removal_taken_for_provider :
    let removal : Json := .obj [("__op", .str "Delete")]
    Change.ofJson removal = .ok .unset ∧
      ofJson (.obj [("authData", removal)]) =
        .ok [("authData", .providers [("__op", some (.str "Delete"))])] ∧
      compile {} (.obj [("authData", removal)]) 1 =
        .ok ("\"authData\" = json_object_set_key(COALESCE(\"authData\", " ++
          "'\x7b\x7d'::jsonb), $1::text, $2::jsonb)::jsonb",
          [.text "__op", .json (.str "Delete")]) := by
  refine ⟨rfl, rfl, ?_⟩
  rfl

end Update
end DocSql
