import Mathlib.Data.List.TakeWhile
import Turnstile.Net.Identity
import Turnstile.Proofs.Net.Form

/-!
# Targets that carry a user

Writing a user into a target exchanges the pairs under the parameter for the user's own and leaves
the rest of the target alone. That needs a path to be there: a target that is read from a text has
one, unless it is an authority alone, and then it has no place for a user.

## Main definitions

- `Uri.Readable` — a target that some text reads as
- `Uri.Formed` — a target with a path, or an authority alone
- `Uri.target` — path and query as they are written

## Main statements

- `Uri.readPathAndQuery?_target` — path and query read as they were written
- `Uri.withUser_eq` — what is written into a target, and where it fails
- `Uri.filter_pairs_of_withUser` — what stands under the parameter afterwards
- `Uri.withUser_replaces_pairs` — the target afterwards, part for part
-/

namespace Turnstile.Uri

variable {u v : Uri} {param : String} {user : Option String} {pairs : List (String × String)}

/-- A target that some text reads as. -/
def Readable (u : Uri) : Prop :=
  ∃ text, read? text = some u

/-- A target in one of the four forms: it has a path and a place for a query, or it is an authority
and nothing else. Unlike `Readable` this does not bound the length, so that a target keeps it when a
user is written into its query. -/
structure Formed (u : Uri) : Prop where
  legal : ∀ c ∈ u.path.toList, isPathChar c = true
  placed : (u.path ≠ "" ∧ ¬(u.authority.isSome ∧ u.scheme.isNone)) ∨
    ∃ authority, u = ⟨none, some authority, "", none⟩

/-- Path and query as they are written. -/
def target (u : Uri) : List Char :=
  u.path.toList ++ ((u.query.map fun query => '?' :: query.toList).getD [])

/-! ### What is read -/

/-- The path that is read is what stands before the query and the fragment. -/
theorem toList_of_readPathAndQuery? {cs : List Char} {path : String} {query : Option String}
    (h : readPathAndQuery? cs = some (path, query)) :
    path.toList = (cs.takeWhile (· ≠ '#')).takeWhile (· ≠ '?') := by
  unfold readPathAndQuery? at h
  dsimp only at h
  split at h
  · cases h
  split at h
  · obtain ⟨rfl, -⟩ := Prod.mk.inj (Option.some.inj h)
    exact String.toList_ofList
  split at h
  · obtain ⟨rfl, -⟩ := Prod.mk.inj (Option.some.inj h)
    exact String.toList_ofList
  · cases h

theorem isPathChar_of_readPathAndQuery? {cs : List Char} {path : String} {query : Option String}
    (h : readPathAndQuery? cs = some (path, query)) : ∀ c ∈ path.toList, isPathChar c = true := by
  rw [toList_of_readPathAndQuery? h]
  unfold readPathAndQuery? at h
  dsimp only at h
  split at h
  · cases h
  · next hlegal => exact List.all_eq_true.1 (by simpa using hlegal)

theorem path_of_rawPath_ne_empty (h : u.rawPath ≠ "") : u.path = u.rawPath :=
  if_neg fun hempty => h hempty.1

theorem path_ne_empty_of_scheme (h : u.scheme.isSome) : u.path ≠ "" := by
  unfold path
  split
  · decide
  · next hempty => exact fun hraw => hempty ⟨hraw, Or.inl h⟩

theorem isPathChar_of_rawPath (h : ∀ c ∈ u.rawPath.toList, isPathChar c = true) :
    ∀ c ∈ u.path.toList, isPathChar c = true := by
  unfold path
  split
  · exact List.all_eq_true.1 rfl
  · exact h

theorem formed_of_readOrigin? {cs : List Char} (h : readOrigin? ('/' :: cs) = some u) :
    u.Formed := by
  obtain ⟨⟨path, query⟩, hread, hu⟩ := Option.bind_eq_some_iff.1 h
  obtain rfl := Option.some.inj hu
  have hraw : path ≠ "" := by
    rintro rfl
    have hpath := toList_of_readPathAndQuery? hread
    simp at hpath
  refine ⟨isPathChar_of_rawPath (isPathChar_of_readPathAndQuery? hread), Or.inl ⟨?_, by simp⟩⟩
  rwa [path_of_rawPath_ne_empty hraw]

/-- What is read is in one of the four forms. -/
theorem Readable.formed (h : u.Readable) : u.Formed := by
  obtain ⟨text, h⟩ := h
  simp only [read?] at h
  split at h
  · cases h
  split at h
  · cases h
  split at h
  · obtain rfl := Option.some.inj h
    exact ⟨List.all_eq_true.1 rfl, Or.inl ⟨by decide, by decide⟩⟩
  split at h
  · next hslash =>
    obtain ⟨cs, hcs⟩ : ∃ cs, text.toList = '/' :: cs := List.head?_eq_some_iff.1 hslash
    rw [hcs] at h
    exact formed_of_readOrigin? h
  · obtain ⟨⟨scheme, cs⟩, -, hrest⟩ := Option.bind_eq_some_iff.1 h
    dsimp only at hrest
    split at hrest
    · cases hrest
    cases scheme with
    | none =>
      dsimp only at hrest
      split at hrest
      · obtain rfl := Option.some.inj hrest
        exact ⟨isPathChar_of_rawPath (by simp), Or.inr ⟨_, rfl⟩⟩
      · cases hrest
    | some scheme =>
      dsimp only at hrest
      split at hrest
      · cases hrest
      · obtain ⟨⟨path, query⟩, hread, hu⟩ := Option.bind_eq_some_iff.1 hrest
        obtain rfl := Option.some.inj hu
        exact ⟨isPathChar_of_rawPath (isPathChar_of_readPathAndQuery? hread),
          Or.inl ⟨path_ne_empty_of_scheme rfl, by simp⟩⟩

/-! ### What is written -/

theorem ne_of_isPathChar {c : Char} (h : isPathChar c = true) : c ≠ '?' ∧ c ≠ '#' := by
  constructor
  all_goals
    rintro rfl
    revert h
    decide

theorem ne_of_isQueryChar {c : Char} (h : isQueryChar c = true) : c ≠ '#' := by
  rintro rfl
  revert h
  decide

/-- A path and a query of legal characters read as they were written. -/
theorem readPathAndQuery?_target (hpath : ∀ c ∈ u.path.toList, isPathChar c = true)
    (hquery : ∀ query, u.query = some query → ∀ c ∈ query.toList, isQueryChar c = true) :
    readPathAndQuery? u.target = some (u.path, u.query) := by
  have hmark : ∀ c ∈ u.path.toList, decide (c ≠ '?') = true := fun c hc =>
    decide_eq_true (ne_of_isPathChar (hpath c hc)).1
  have hfragment : ∀ c ∈ u.path.toList, decide (c ≠ '#') = true := fun c hc =>
    decide_eq_true (ne_of_isPathChar (hpath c hc)).2
  have hlegal : u.path.toList.all isPathChar = true := List.all_eq_true.2 hpath
  unfold readPathAndQuery? target
  dsimp only
  rw [List.takeWhile_append_of_pos hfragment]
  cases hu : u.query with
  | none =>
    rw [Option.map_none, Option.getD_none, List.takeWhile_nil, List.append_nil,
      List.takeWhile_eq_self_iff.2 hmark, List.dropWhile_eq_nil_iff.2 hmark, hlegal,
      String.ofList_toList]
    rfl
  | some query =>
    have hall : query.toList.all isQueryChar = true := List.all_eq_true.2 (hquery query hu)
    have hwritten : ('?' :: query.toList).takeWhile (· ≠ '#') = '?' :: query.toList := by
      refine List.takeWhile_eq_self_iff.2 fun c hc => decide_eq_true ?_
      rcases List.mem_cons.1 hc with rfl | hc
      · decide
      · exact ne_of_isQueryChar (hquery query hu c hc)
    rw [Option.map_some, Option.getD_some, hwritten, List.takeWhile_append_of_pos hmark,
      List.dropWhile_append_of_pos hmark, List.takeWhile_cons_of_neg (by decide),
      List.dropWhile_cons_of_neg (by decide), List.append_nil, hlegal, String.ofList_toList]
    simp only [hall, String.ofList_toList]
    rfl

/-! ### The pairs of the query -/

/-- There is no query exactly for no pairs. -/
theorem queryOf_eq_none_iff : queryOf pairs = none ↔ pairs = [] := by
  unfold queryOf
  split
  · next hempty => exact iff_of_true rfl (Form.render_eq_nil_iff.1 hempty)
  · next hsome => exact iff_of_false (by simp) fun hpairs => hsome (Form.render_eq_nil_iff.2 hpairs)

theorem parse_queryOf (pairs : List (String × String)) :
    Form.parse ((queryOf pairs).getD "").toList = pairs := by
  have hread : ((queryOf pairs).getD "").toList = Form.render pairs := by
    unfold queryOf
    split
    · next hempty =>
      rw [hempty]
      rfl
    · next hempty => exact String.toList_ofList
  rw [hread, Form.parse_render]

theorem pairs_of_query (h : v.query = queryOf pairs) : v.pairs = pairs := by
  rw [Uri.pairs, h, parse_queryOf]

theorem isQueryChar_of_mem_encodeByte {b : UInt8} {c : Char} (h : c ∈ Form.encodeByte b) :
    isQueryChar c = true := by
  have hall : ∀ b, (Form.encodeByte b).all isQueryChar = true :=
    Form.forall_byte (by decide +kernel)
  exact List.all_eq_true.1 (hall b) c h

theorem isQueryChar_of_mem_encode {s : String} {c : Char} (h : c ∈ Form.encode s) :
    isQueryChar c = true := by
  obtain ⟨b, -, hb⟩ := List.mem_flatMap.1 h
  exact isQueryChar_of_mem_encodeByte hb

/-- Whatever the pairs are, they are written in legal characters. -/
theorem isQueryChar_of_mem_render {c : Char} (h : c ∈ Form.render pairs) :
    isQueryChar c = true := by
  rcases Text.eq_or_exists_of_mem_join h with rfl | ⟨segment, hsegment, hc⟩
  · decide
  · obtain ⟨pair, -, rfl⟩ := List.mem_map.1 hsegment
    rcases List.mem_append.1 hc with hname | hc
    · exact isQueryChar_of_mem_encode hname
    · rcases List.mem_cons.1 hc with rfl | hvalue
      · decide
      · exact isQueryChar_of_mem_encode hvalue

theorem isQueryChar_of_queryOf {query : String} (h : queryOf pairs = some query) :
    ∀ c ∈ query.toList, isQueryChar c = true := by
  unfold queryOf at h
  split at h
  · cases h
  · obtain rfl := Option.some.inj h
    rw [String.toList_ofList]
    exact fun c => isQueryChar_of_mem_render

/-- Of the pairs that a target is to carry, only the user's stands under the parameter. -/
theorem filter_pairsWithUser (u : Uri) (param : String) (user : Option String) :
    (u.pairsWithUser param user).filter (fun pair => pair.1 = param) =
      (user.map ((param, ·))).toList := by
  have hclient : (u.pairs.filter fun pair => pair.1 ≠ param).filter
      (fun pair => pair.1 = param) = [] := by
    rw [List.filter_eq_nil_iff]
    intro pair hpair
    simpa using (List.mem_filter.1 hpair).2
  rw [pairsWithUser, List.filter_append, hclient]
  cases user <;> simp

/-- Of the pairs that a target is to carry, the client's stand under other names, as they did. -/
theorem filter_ne_pairsWithUser (u : Uri) (param : String) (user : Option String) :
    (u.pairsWithUser param user).filter (fun pair => pair.1 ≠ param) =
      u.pairs.filter fun pair => pair.1 ≠ param := by
  have huser : (user.map ((param, ·))).toList.filter (fun pair => pair.1 ≠ param) = [] := by
    cases user <;> simp
  rw [pairsWithUser, List.filter_append, huser, List.append_nil, List.filter_filter]
  simp

/-! ### Writing a user -/

/-- With nobody to carry and nothing under the parameter a target stays as it is. Otherwise it needs
a place for the query, and gets the pairs that it is to carry. -/
theorem withUser_eq (u : Uri) (param : String) (user : Option String) :
    u.withUser param user =
      if user = none ∧ ∀ pair ∈ u.pairs, pair.1 ≠ param then .ok none
      else if u.authority.isSome ∧ u.scheme.isNone then .error (.internal .schemeMissing)
      else .ok (some
        { u with rawPath := u.path, query := queryOf (u.pairsWithUser param user) }) := by
  have hclean : (user.isNone ∧ !(u.pairs.any fun pair => pair.1 = param)) ↔
      user = none ∧ ∀ pair ∈ u.pairs, pair.1 ≠ param := by
    simp
  unfold withUser withQuery
  simp only [hclean]
  split
  · rfl
  · split <;> rfl

/-- In a target that carries a user, the user's pair and no other stands under the parameter. In one
that carries nobody, nothing does. -/
theorem filter_pairs_of_withUser {rewritten : Option Uri}
    (h : u.withUser param user = .ok rewritten) :
    (rewritten.getD u).pairs.filter (fun pair => pair.1 = param) =
      (user.map ((param, ·))).toList := by
  rw [withUser_eq] at h
  split at h
  · next hclean =>
    -- a target that stays as it is has nobody to carry, and nothing under the parameter
    obtain ⟨rfl, habsent⟩ := hclean
    obtain rfl := Except.ok.inj h
    exact List.filter_eq_nil_iff.2 fun pair hpair => by simpa using habsent pair hpair
  split at h
  · cases h
  · obtain rfl := Except.ok.inj h
    rw [Option.getD_some, pairs_of_query rfl, filter_pairsWithUser]

/-- A target that is not an authority alone has a place for a user. -/
theorem exists_withUser (place : ¬(u.authority.isSome ∧ u.scheme.isNone)) (param : String)
    (user : Option String) : ∃ rewritten, u.withUser param user = .ok rewritten := by
  rw [withUser_eq, if_neg place]
  split
  · exact ⟨_, rfl⟩
  · exact ⟨_, rfl⟩

/-- What is written into has a place for a query, and gets the pairs that it is to carry. -/
theorem of_withUser (h : u.withUser param user = .ok (some v)) :
    ¬(user = none ∧ ∀ pair ∈ u.pairs, pair.1 ≠ param) ∧ ¬(u.authority.isSome ∧ u.scheme.isNone) ∧
      v = { u with rawPath := u.path, query := queryOf (u.pairsWithUser param user) } := by
  rw [withUser_eq] at h
  split at h
  · cases h
  · next hneeded =>
    split at h
    · cases h
    · next hplace => exact ⟨hneeded, hplace, (Option.some.inj (Except.ok.inj h)).symm⟩

/-- Writing a user into a target leaves its path alone. -/
theorem path_of_withUser (formed : u.Formed) (h : u.withUser param user = .ok (some v)) :
    v.path = u.path := by
  obtain ⟨-, hplace, rfl⟩ := of_withUser h
  obtain ⟨hpath, -⟩ | ⟨authority, rfl⟩ := formed.placed
  · exact path_of_rawPath_ne_empty hpath
  · exact absurd ⟨rfl, rfl⟩ hplace

/-- What has been written into is in one of the four forms again. -/
theorem Formed.of_withUser (formed : u.Formed) (h : u.withUser param user = .ok (some v)) :
    v.Formed := by
  have hpath : v.path = u.path := path_of_withUser formed h
  obtain ⟨-, hplace, hv⟩ := Uri.of_withUser h
  obtain ⟨hne, -⟩ | ⟨authority, rfl⟩ := formed.placed
  · refine ⟨by rw [hpath]; exact formed.legal, Or.inl ⟨by rwa [hpath], ?_⟩⟩
    rwa [hv]
  · exact absurd ⟨rfl, rfl⟩ hplace

theorem withUser_eq_ok_none_iff :
    u.withUser param user = .ok none ↔ user = none ∧ ∀ pair ∈ u.pairs, pair.1 ≠ param := by
  rw [withUser_eq]
  split
  · next hclean => exact iff_of_true rfl hclean
  · next hneeded =>
    refine iff_of_false ?_ hneeded
    split <;> simp

/-- An authority alone has no pairs, and so it is only a user that it has no place for. -/
theorem withUser_eq_error_iff (formed : u.Formed) {e : Failure} :
    u.withUser param user = .error e ↔
      e = .internal .schemeMissing ∧ u.authority.isSome ∧ u.scheme = none ∧ user.isSome := by
  rw [withUser_eq]
  obtain ⟨-, hplace⟩ | ⟨authority, rfl⟩ := formed.placed
  · have hfine : ¬(u.authority.isSome ∧ u.scheme = none ∧ user.isSome) :=
      fun ⟨hauthority, hscheme, _⟩ =>
      hplace ⟨hauthority, Option.isNone_iff_eq_none.2 hscheme⟩
    rw [if_neg hplace]
    refine iff_of_false ?_ fun h => hfine h.2
    split <;> simp
  · have hpairs : pairs ⟨none, some authority, "", none⟩ = [] := rfl
    cases user with
    | none => simp [hpairs]
    | some user => simp [eq_comm]

/-- Where the user has been written already, nothing changes any more. -/
theorem withUser_of_withUser (formed : u.Formed) (h : u.withUser param user = .ok (some v)) :
    v.withUser param user = .ok (user.map fun _ => v) := by
  have hpath : v.path = u.path := path_of_withUser formed h
  obtain ⟨-, hplace, hv⟩ := of_withUser h
  have hpairs : v.pairs = u.pairsWithUser param user := pairs_of_query (by rw [hv])
  cases user with
  | none =>
    refine withUser_eq_ok_none_iff.2 ⟨rfl, fun pair hpair => ?_⟩
    rw [hpairs, pairsWithUser, Option.map_none, Option.toList_none, List.append_nil] at hpair
    simpa using (List.mem_filter.1 hpair).2
  | some user =>
    have hsame : v.pairsWithUser param (some user) = u.pairsWithUser param (some user) := by
      rw [pairsWithUser, hpairs, filter_ne_pairsWithUser]
      rfl
    have hplaceless : ¬(v.authority.isSome ∧ v.scheme.isNone) := by rwa [hv]
    rw [withUser_eq, if_neg (by simp), if_neg hplaceless, hsame, hpath]
    subst hv
    rfl

/-- Path and query, written one after the other, read as the path and the query that were
written. -/
theorem readPathAndQuery?_of_withUser (formed : u.Formed)
    (h : u.withUser param user = .ok (some v)) :
    readPathAndQuery? v.target = some (v.path, v.query) := by
  obtain ⟨-, -, hv⟩ := of_withUser h
  have hquery : v.query = queryOf (u.pairsWithUser param user) := by rw [hv]
  refine readPathAndQuery?_target (formed.of_withUser h).legal fun query hsome => ?_
  exact isQueryChar_of_queryOf (hquery.symm.trans hsome)

/-- Writing a user fails only for an authority alone, and leaves a target as it is only if there is
nobody to carry and nobody to take out. Otherwise scheme, authority and path stay, and the query
then has the pairs under other names, in their order and as often as they stood there, and after
them the user's. Path and query read as they are written, and where the user has been written
already, nothing changes any more. -/
theorem withUser_replaces_pairs (formed : u.Formed) (param : String) (user : Option String) :
    (∀ e, u.withUser param user = .error e ↔
      e = .internal .schemeMissing ∧ u.authority.isSome ∧ u.scheme = none ∧ user.isSome) ∧
    (u.withUser param user = .ok none ↔ user = none ∧ ∀ pair ∈ u.pairs, pair.1 ≠ param) ∧
    ∀ v, u.withUser param user = .ok (some v) →
      v.scheme = u.scheme ∧ v.authority = u.authority ∧ v.path = u.path ∧
      v.pairs = (u.pairs.filter fun pair => pair.1 ≠ param) ++ (user.map ((param, ·))).toList ∧
      (v.query = none ↔ v.pairs = []) ∧
      readPathAndQuery? v.target = some (v.path, v.query) ∧
      v.withUser param user = .ok (user.map fun _ => v) := by
  refine ⟨fun e => withUser_eq_error_iff formed, withUser_eq_ok_none_iff, fun v h => ?_⟩
  obtain ⟨-, -, hv⟩ := of_withUser h
  have hquery : v.query = queryOf (u.pairsWithUser param user) := by rw [hv]
  have hpairs : v.pairs = u.pairsWithUser param user := pairs_of_query hquery
  refine ⟨by rw [hv], by rw [hv], path_of_withUser formed h, hpairs, ?_,
    readPathAndQuery?_of_withUser formed h, withUser_of_withUser formed h⟩
  rw [hquery, hpairs]
  exact queryOf_eq_none_iff

/-- A target without a path, with the parameter spelled in another way, a pair of its own and that
pair again. -/
def forged : Uri :=
  ⟨some "http", some "h", "", some "%5FasUser=eve&q=a+b%26c&&q=a+b%26c"⟩

def cleared : Uri :=
  ⟨some "http", some "h", "/", some "q=a+b%26c&q=a+b%26c&_asUser=x%26y+%3D%2B%C3%A9"⟩

theorem forged_cleared :
    forged.withUser "_asUser" (some "x&y =+é") = .ok (some cleared) ∧
      cleared.pairs = [("q", "a b&c"), ("q", "a b&c"), ("_asUser", "x&y =+é")] ∧
      cleared.withUser "_asUser" (some "x&y =+é") = .ok (some cleared) := by
  have formed : forged.Formed :=
    Readable.formed ⟨"HTTP://h?%5FasUser=eve&q=a+b%26c&&q=a+b%26c#f", by decide +kernel⟩
  have hforged : forged.pairs = [("_asUser", "eve"), ("q", "a b&c"), ("q", "a b&c")] := by
    decide +kernel
  have hwritten : forged.withUser "_asUser" (some "x&y =+é") = .ok (some cleared) := by
    have hquery : queryOf (forged.pairsWithUser "_asUser" (some "x&y =+é")) = cleared.query := by
      decide +kernel
    rw [withUser_eq, if_neg (by simp), if_neg (by decide), hquery]
    rfl
  obtain ⟨-, -, hparts⟩ := withUser_replaces_pairs formed "_asUser" (some "x&y =+é")
  obtain ⟨-, -, -, hpairs, -, -, hagain⟩ := hparts cleared hwritten
  rw [hforged] at hpairs
  exact ⟨hwritten, hpairs, hagain⟩

end Turnstile.Uri
