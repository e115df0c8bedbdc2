import StaticSite.Proofs.Query.Comparing
import StaticSite.Query

set_option autoImplicit false

/-! # Placeholders in queries

Placeholders in the values of a filter are replaced by fields of another content, and the filter keeps its shape. The
values that stand in their places are not searched for placeholders again. They are searched for the token of the
current time though, like all other values: a field that holds this token is compared as the current time. -/

namespace StaticSite

/-- A mapping finds the values of another one, changed. -/
theorem Table.named?_mapValues {α β : Type} (f : α → β) (t : Table α) (name : String) :
    Table.named? (Table.mapValues f t) name = (Table.named? t name).map f := by
  unfold Table.named? Table.mapValues
  induction t with
  | nil => rfl
  | cons e t ih =>
      rw [List.map_cons, Table.find?, Table.find?]
      split
      · rfl
      · exact ih

mutual

/-- The texts in a value and in the lists it holds. -/
def Value.texts : Value → List String
  | .str s => [s]
  | .list items => Value.textsAll items
  | _ => []

/-- The texts in values. -/
def Value.textsAll : List Value → List String
  | [] => []
  | v :: rest => Value.texts v ++ Value.textsAll rest

end

namespace Filter

variable {params fields : Entries} {now : Value}

/-! ## Texts that are placeholders -/

/-- A text that is one placeholder: what stands between the double braces names a field, except in the token of the
    current time. -/
structure IsPlaceholder (s name : String) : Prop where
  notToken : s ≠ nowToken
  braces : ∃ inner : List Char, s.toList = "\x7b\x7b".toList ++ inner ++ "\x7d\x7d".toList ∧
    name = String.ofList (Text.trim inner)

/-- The braces at both ends of a text do not overlap. -/
theorem exists_inner {s : List Char} (hleft : ['{', '{'] <+: s) (hright : ['}', '}'] <:+ s) :
    ∃ inner, s = ['{', '{'] ++ inner ++ ['}', '}'] := by
  obtain ⟨rest, rfl⟩ := hleft
  obtain ⟨front, hfront⟩ := hright
  rcases List.append_eq_append_iff.1 hfront with ⟨overlap, hopening, hrest⟩ | ⟨inner, -, hrest⟩
  · cases overlap with
    | nil => exact ⟨[], congrArg (['{', '{'] ++ ·) hrest.symm⟩
    | cons c overlap =>
        -- A brace would be an opening and a closing one.
        have hclosing : c = '}' := (List.cons.inj hrest).1.symm
        have hmem : c ∈ ['{', '{'] := hopening ▸ List.mem_append_right front List.mem_cons_self
        rw [hclosing] at hmem
        exact absurd hmem (by decide)
  · exact ⟨inner, by rw [hrest, List.append_assoc]⟩

theorem placeholder?_eq_some_iff {s name : String} : placeholder? s = .some name ↔ IsPlaceholder s name := by
  have hbraces : (startsWith "\x7b\x7b" s && endsWith "\x7d\x7d" s) = true ↔
      ['{', '{'] <+: s.toList ∧ ['}', '}'] <:+ s.toList := by
    rw [Bool.and_eq_true]
    exact and_congr List.isPrefixOf_iff_prefix List.isSuffixOf_iff_suffix
  have hinner {inner : List Char} (h : s.toList = ['{', '{'] ++ inner ++ ['}', '}']) :
      (s.toList.drop 2).take (s.length - 4) = inner := by
    have hlength : s.length - 4 = inner.length := by
      rw [← String.length_toList, h]
      simp
    rw [hlength, h]
    simp
  unfold placeholder?
  constructor
  · intro h
    split at h
    · cases h
    · next htoken =>
        split at h
        · next hends =>
            obtain ⟨hleft, hright⟩ := hbraces.1 hends
            obtain ⟨inner, hs⟩ := exists_inner hleft hright
            refine ⟨fun heq => htoken (beq_iff_eq.2 heq), inner, hs, ?_⟩
            rw [← Option.some.inj h, hinner hs]
        · cases h
  · rintro ⟨htoken, inner, hs, rfl⟩
    have hends := hbraces.2 ⟨⟨inner ++ ['}', '}'], by rw [← List.append_assoc]; exact hs.symm⟩,
      ⟨['{', '{'] ++ inner, hs.symm⟩⟩
    rw [if_neg (by simpa using htoken), if_pos hends, hinner hs]

/-! ## Filters with placeholders replaced -/

/-- A value with fields in place of their placeholders, also in the lists it holds. -/
inductive ValueReplaced (params : Entries) : Value → Value → Prop
  | field {s name : String} {v : Value} (hs : IsPlaceholder s name) (hv : Table.named? params name = .some v) :
      ValueReplaced params (.str s) v
  | text {s : String} (hs : ∀ name, IsPlaceholder s name → Table.named? params name = .none) :
      ValueReplaced params (.str s) (.str s)
  | list {items items' : List Value} (h : List.Forall₂ (ValueReplaced params) items items') :
      ValueReplaced params (.list items) (.list items')
  | other {v : Value} (htext : ∀ s, v ≠ .str s) (hlist : ∀ items, v ≠ .list items) : ValueReplaced params v v

/-- A filter of the same shape with the same keys and operators, and with fields in place of their placeholders. -/
inductive Replaced (params : Entries) : Filter → Filter → Prop
  | field {key : String} {op : Operator} {v w : Value} (h : ValueReplaced params v w) :
      Replaced params (.field key op v) (.field key op w)
  | every {fs gs : List Filter} (h : List.Forall₂ (Replaced params) fs gs) : Replaced params (.every fs) (.every gs)
  | some {fs gs : List Filter} (h : List.Forall₂ (Replaced params) fs gs) : Replaced params (.some fs) (.some gs)

theorem valueReplaced_of_other {v w : Value} (htext : ∀ s, v ≠ .str s) (hlist : ∀ items, v ≠ .list items) :
    ValueReplaced params v w ↔ w = v := by
  constructor
  · intro h
    cases h with
    | field | text => exact absurd rfl (htext _)
    | list => exact absurd rfl (hlist _)
    | other => rfl
  · rintro rfl
    exact .other htext hlist

mutual

/-- Replacing placeholders comes to the replaced value and nothing else. -/
theorem valueReplaced_iff : ∀ v w : Value, ValueReplaced params v w ↔ w = substituteValue params v
  | .str s, w => by
      rw [substituteValue]
      constructor
      · intro h
        cases h with
        | field hs hv =>
            rw [placeholder?_eq_some_iff.2 hs]
            exact (congrArg (·.getD (.str s)) hv).symm
        | text hs =>
            split
            · next name hname => rw [hs name (placeholder?_eq_some_iff.1 hname), Option.getD_none]
            · rfl
        | other htext => exact absurd rfl (htext s)
      · rintro rfl
        split
        · next name hname =>
            have hs := placeholder?_eq_some_iff.1 hname
            cases hv : Table.named? params name with
            | some v => exact .field hs hv
            | none =>
                refine .text fun name' hname' => ?_
                rw [← placeholder?_eq_some_iff, hname, Option.some_inj] at hname'
                rw [← hname', hv]
        · next hnone =>
            refine .text fun name hname => ?_
            rw [← placeholder?_eq_some_iff, hnone] at hname
            cases hname
  | .list items, w => by
      rw [substituteValue]
      constructor
      · intro h
        cases h with
        | list h => rw [(forall₂_valueReplaced_iff items _).1 h]
        | other _ hlist => exact absurd rfl (hlist items)
      · rintro rfl
        exact .list ((forall₂_valueReplaced_iff items _).2 rfl)
  | .null, _ => valueReplaced_of_other (by simp) (by simp)
  | .bool _, _ => valueReplaced_of_other (by simp) (by simp)
  | .int _, _ => valueReplaced_of_other (by simp) (by simp)
  | .float _, _ => valueReplaced_of_other (by simp) (by simp)
  | .date _, _ => valueReplaced_of_other (by simp) (by simp)
  | .moment _, _ => valueReplaced_of_other (by simp) (by simp)
  | .map _, _ => valueReplaced_of_other (by simp) (by simp)

theorem forall₂_valueReplaced_iff : ∀ vs ws : List Value,
    List.Forall₂ (ValueReplaced params) vs ws ↔ ws = substituteList params vs
  | [], ws => by rw [List.forall₂_nil_left_iff, substituteList]
  | v :: vs, ws => by
      rw [List.forall₂_cons_left_iff, substituteList]
      simp only [valueReplaced_iff v, forall₂_valueReplaced_iff vs, exists_and_left, exists_eq_left]

end

mutual

/-- Replacing placeholders comes to the replaced filter and nothing else. -/
theorem replaced_iff : ∀ f g : Filter, Replaced params f g ↔ g = f.substitute params
  | .field key op v, g => by
      rw [substitute]
      constructor
      · rintro ⟨h⟩
        rw [(valueReplaced_iff v _).1 h]
      · rintro rfl
        exact .field ((valueReplaced_iff v _).2 rfl)
  | .every fs, g => by
      rw [substitute]
      constructor
      · rintro ⟨⟩
        next h => rw [(forall₂_replaced_iff fs _).1 h]
      · rintro rfl
        exact .every ((forall₂_replaced_iff fs _).2 rfl)
  | .some fs, g => by
      rw [substitute]
      constructor
      · rintro ⟨⟩
        next h => rw [(forall₂_replaced_iff fs _).1 h]
      · rintro rfl
        exact .some ((forall₂_replaced_iff fs _).2 rfl)

theorem forall₂_replaced_iff : ∀ fs gs : List Filter,
    List.Forall₂ (Replaced params) fs gs ↔ gs = substituteAll params fs
  | [], gs => by rw [List.forall₂_nil_left_iff, substituteAll]
  | f :: fs, gs => by
      rw [List.forall₂_cons_left_iff, substituteAll]
      simp only [replaced_iff f, forall₂_replaced_iff fs, exists_and_left, exists_eq_left]

end

/-! ## Evaluating filters whose values stand for others -/

mutual

/-- Whether fields satisfy a filter whose values stand for others. -/
def acceptsBy (stands : Value → Value) (fields : Entries) : Filter → Checked Bool
  | .field key op value =>
      match Table.named? fields key with
      | .some v => op.accepts v (stands value)
      | .none => .ok false
  | .every fs => acceptsEveryBy stands fields fs
  | .some fs => acceptsSomeBy stands fields fs

/-- Whether fields satisfy every filter, up to the first that fails. -/
def acceptsEveryBy (stands : Value → Value) (fields : Entries) : List Filter → Checked Bool
  | [] => .ok true
  | f :: rest => do
      if ← f.acceptsBy stands fields then acceptsEveryBy stands fields rest else return false

/-- Whether fields satisfy some filter, up to the first that holds. -/
def acceptsSomeBy (stands : Value → Value) (fields : Entries) : List Filter → Checked Bool
  | [] => .ok false
  | f :: rest => do
      if ← f.acceptsBy stands fields then return true else acceptsSomeBy stands fields rest

end

mutual

/-- What a value of a filter stands for: the token for the current time, and placeholders for the fields they name,
    which are taken as they are. -/
def meaning (params : Entries) (now : Value) : Value → Value
  | .str s =>
      if s = nowToken then now
      else
        match placeholder? s with
        | .some name => (Table.named? params name).getD (.str s)
        | .none => .str s
  | .list items => .list (meanings params now items)
  | v => v

/-- What values stand for. -/
def meanings (params : Entries) (now : Value) : List Value → List Value
  | [] => []
  | v :: rest => meaning params now v :: meanings params now rest

end

/-- Fields with the current time in place of its token. -/
def timed (now : Value) (params : Entries) : Entries :=
  Table.mapValues (resolveNow now) params

mutual

/-- The token of the current time is replaced after the placeholders, in fields as well as in the filter. -/
theorem resolveNow_substituteValue : ∀ v : Value,
    resolveNow now (substituteValue params v) = meaning (timed now params) now v
  | .str s => by
      rw [substituteValue, meaning]
      by_cases hs : s = nowToken
      · subst hs
        rfl
      · have htext : resolveNow now (.str s) = .str s := by
          rw [resolveNow, if_neg (by simpa using hs)]
        rw [if_neg hs]
        cases placeholder? s with
        | none => exact htext
        | some name =>
            dsimp only
            rw [timed, Table.named?_mapValues]
            cases Table.named? params name with
            | none => exact htext
            | some v => rfl
  | .list items => by
      rw [substituteValue, resolveNow, meaning, resolveNowList_substituteList items]
  | .null => rfl
  | .bool _ => rfl
  | .int _ => rfl
  | .float _ => rfl
  | .date _ => rfl
  | .moment _ => rfl
  | .map _ => rfl

theorem resolveNowList_substituteList : ∀ vs : List Value,
    resolveNowList now (substituteList params vs) = meanings (timed now params) now vs
  | [] => rfl
  | v :: vs => by
      rw [substituteList, resolveNowList, meanings, resolveNow_substituteValue v, resolveNowList_substituteList vs]

end

mutual

theorem accepts_substitute : ∀ f : Filter,
    (f.substitute params).accepts fields now = f.acceptsBy (meaning (timed now params) now) fields
  | .field key op v => by
      rw [substitute, accepts, acceptsBy]
      cases Table.named? fields key with
      | some w => exact congrArg (op.accepts w) (resolveNow_substituteValue v)
      | none => rfl
  | .every fs => by
      rw [substitute, accepts, acceptsBy, acceptsEvery_substituteAll fs]
  | .some fs => by
      rw [substitute, accepts, acceptsBy, acceptsSome_substituteAll fs]

theorem acceptsEvery_substituteAll : ∀ fs : List Filter,
    acceptsEvery fields now (substituteAll params fs) = acceptsEveryBy (meaning (timed now params) now) fields fs
  | [] => rfl
  | f :: fs => by
      rw [substituteAll, acceptsEvery, acceptsEveryBy, accepts_substitute f, acceptsEvery_substituteAll fs]

theorem acceptsSome_substituteAll : ∀ fs : List Filter,
    acceptsSome fields now (substituteAll params fs) = acceptsSomeBy (meaning (timed now params) now) fields fs
  | [] => rfl
  | f :: fs => by
      rw [substituteAll, acceptsSome, acceptsSomeBy, accepts_substitute f, acceptsSome_substituteAll fs]

end

/-! ## Fields without the token -/

mutual

/-- The texts in the values of a filter. -/
def texts : Filter → List String
  | .field _ _ value => value.texts
  | .every fs => textsAll fs
  | .some fs => textsAll fs

/-- The texts in the values of filters. -/
def textsAll : List Filter → List String
  | [] => []
  | f :: rest => f.texts ++ textsAll rest

end

/-- Whether the field that a text is a placeholder for, if there is one, does not hold the token of the current
    time. -/
def IsTokenFree (params : Entries) (s : String) : Prop :=
  ∀ name v, IsPlaceholder s name → Table.named? params name = .some v → nowToken ∉ v.texts

mutual

theorem resolveNow_of_not_mem : ∀ v : Value, nowToken ∉ v.texts → resolveNow now v = v
  | .str s, h => by
      rw [resolveNow, if_neg fun hs => h (List.mem_singleton.2 (beq_iff_eq.1 hs).symm)]
  | .list items, h => by rw [resolveNow, resolveNowList_of_not_mem items h]
  | .null, _ => rfl
  | .bool _, _ => rfl
  | .int _, _ => rfl
  | .float _, _ => rfl
  | .date _, _ => rfl
  | .moment _, _ => rfl
  | .map _, _ => rfl

theorem resolveNowList_of_not_mem : ∀ vs : List Value, nowToken ∉ Value.textsAll vs → resolveNowList now vs = vs
  | [], _ => rfl
  | v :: vs, h => by
      rw [Value.textsAll, List.mem_append, not_or] at h
      rw [resolveNowList, resolveNow_of_not_mem v h.1, resolveNowList_of_not_mem vs h.2]

end

mutual

theorem meaning_timed : ∀ v : Value, (∀ s ∈ v.texts, IsTokenFree params s) →
    meaning (timed now params) now v = meaning params now v
  | .str s, h => by
      rw [meaning, meaning]
      split
      · rfl
      · cases hname : placeholder? s with
        | none => rfl
        | some name =>
            dsimp only
            rw [timed, Table.named?_mapValues]
            cases hv : Table.named? params name with
            | none => rfl
            | some v =>
                exact resolveNow_of_not_mem v
                  (h s (List.mem_singleton_self s) name v (placeholder?_eq_some_iff.1 hname) hv)
  | .list items, h => by rw [meaning, meaning, meanings_timed items h]
  | .null, _ => rfl
  | .bool _, _ => rfl
  | .int _, _ => rfl
  | .float _, _ => rfl
  | .date _, _ => rfl
  | .moment _, _ => rfl
  | .map _, _ => rfl

theorem meanings_timed : ∀ vs : List Value, (∀ s ∈ Value.textsAll vs, IsTokenFree params s) →
    meanings (timed now params) now vs = meanings params now vs
  | [], _ => rfl
  | v :: vs, h => by
      rw [Value.textsAll, List.forall_mem_append] at h
      rw [meanings, meanings, meaning_timed v h.1, meanings_timed vs h.2]

end

mutual

theorem acceptsBy_timed : ∀ f : Filter, (∀ s ∈ f.texts, IsTokenFree params s) →
    f.acceptsBy (meaning (timed now params) now) fields = f.acceptsBy (meaning params now) fields
  | .field key op v, h => by rw [acceptsBy, acceptsBy, meaning_timed v h]
  | .every fs, h => by rw [acceptsBy, acceptsBy, acceptsEveryBy_timed fs h]
  | .some fs, h => by rw [acceptsBy, acceptsBy, acceptsSomeBy_timed fs h]

theorem acceptsEveryBy_timed : ∀ fs : List Filter, (∀ s ∈ textsAll fs, IsTokenFree params s) →
    acceptsEveryBy (meaning (timed now params) now) fields fs = acceptsEveryBy (meaning params now) fields fs
  | [], _ => rfl
  | f :: fs, h => by
      rw [textsAll, List.forall_mem_append] at h
      rw [acceptsEveryBy, acceptsEveryBy, acceptsBy_timed f h.1, acceptsEveryBy_timed fs h.2]

theorem acceptsSomeBy_timed : ∀ fs : List Filter, (∀ s ∈ textsAll fs, IsTokenFree params s) →
    acceptsSomeBy (meaning (timed now params) now) fields fs = acceptsSomeBy (meaning params now) fields fs
  | [], _ => rfl
  | f :: fs, h => by
      rw [textsAll, List.forall_mem_append] at h
      rw [acceptsSomeBy, acceptsSomeBy, acceptsBy_timed f h.1, acceptsSomeBy_timed fs h.2]

end

end Filter

/-! ## Queries -/

namespace Query

/-- Replacing placeholders changes nothing of a query but the values of its filter that are placeholders of known
    fields. The filter is then evaluated as if they stood for these fields with the current time in place of its token;
    so they stand for the fields as they are unless these hold the token. -/
theorem substitute_reads_once (params : Entries) (q : Query) :
    (q.filter = none → q.substitute params = q) ∧
      ∀ f, q.filter = some f → ∃ g, q.substitute params = { q with filter := some g } ∧
        (∀ g', Filter.Replaced params f g' ↔ g' = g) ∧
        ∀ fields now,
          g.accepts fields now = f.acceptsBy (Filter.meaning (Filter.timed now params) now) fields ∧
            ((∀ s ∈ f.texts, Filter.IsTokenFree params s) →
              g.accepts fields now = f.acceptsBy (Filter.meaning params now) fields) := by
  refine ⟨fun hnone => ?_, fun f hf => ⟨f.substitute params, ?_, Filter.replaced_iff f, fun fields now => ?_⟩⟩
  · rw [substitute, hnone, Option.map_none, ← hnone]
  · rw [substitute, hf, Option.map_some]
  · have haccepts : (f.substitute params).accepts fields now =
        f.acceptsBy (Filter.meaning (Filter.timed now params) now) fields := Filter.accepts_substitute f
    exact ⟨haccepts, fun hfree => haccepts.trans (Filter.acceptsBy_timed f hfree)⟩

/-- The placeholder for the title. -/
def titlePlaceholder : String := "\x7b\x7btitle\x7d\x7d"

/-- A condition that contents of the same title meet. -/
def sameTitle : Filter :=
  .field "title" .equals (.str titlePlaceholder)

/-- Fields with a title alone. -/
def titled (title : String) : Entries :=
  [(.str "title", .str title)]

/-- A title that looks like a placeholder is not read as one. -/
theorem substitute_reads_once_titled :
    (∀ s ∈ sameTitle.texts, Filter.IsTokenFree (titled titlePlaceholder) s) ∧
      ∃ g, substitute (titled titlePlaceholder) { contentType := "page", filter := some sameTitle } =
          { contentType := "page", filter := some g } ∧
        g.accepts (titled titlePlaceholder) (.float .zero) = .ok true := by
  obtain ⟨g, hg, -, heval⟩ :=
    (substitute_reads_once (titled titlePlaceholder) { contentType := "page", filter := some sameTitle }).2 _ rfl
  have hfree : ∀ s ∈ sameTitle.texts, Filter.IsTokenFree (titled titlePlaceholder) s := by
    intro s _ name v _ hv
    rw [titled, Table.named?, Table.find?, Table.find?] at hv
    split at hv
    · cases hv
      decide
    · cases hv
  refine ⟨hfree, g, hg, ((heval _ _).2 hfree).trans ?_⟩
  exact eq_ok_of_toOption (by decide)

/-- A title that is the token of the current time is compared as this time, so the title is not found to be the same:
    it would be if the placeholder stood for the title as it is. -/
theorem title_read_as_token :
    (sameTitle.substitute (titled Filter.nowToken)).accepts (titled Filter.nowToken) (.float .zero) = .ok false ∧
      sameTitle.acceptsBy (Filter.meaning (titled Filter.nowToken) (.float .zero)) (titled Filter.nowToken) =
        .ok true :=
  ⟨eq_ok_of_toOption (by decide), eq_ok_of_toOption (by decide)⟩

end Query

end StaticSite
