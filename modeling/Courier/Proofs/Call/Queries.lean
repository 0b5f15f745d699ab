import Courier.Call.Address
import Courier.Call.Options
import Courier.Proofs.Exchange.Requests
import Courier.Proofs.Signing.Keyed
import Courier.Proofs.Url.Query
import Courier.Signing.Authentication

/-!
# The query parameters of a call

Query parameters are given one after another, and of those with one name the last is kept, at
the end (`Courier.CallOptions.queries_ask`). They are added to the address of a call behind the
pairs that it has (`Courier.Request.queries_arrive`): the longer address is read as the same
address with these pairs, and this is the address of the request that is made. So they are what
is sent, and what is signed is made from them and from nothing else, although the signature
codes them in another way than the address does.
-/

namespace Courier

/-! ### Parameters given one after another -/

/-- The last of the pairs with each name, in the order of these last ones. -/
def lastOfEach : List (String × String) → List (String × String)
  | [] => []
  | kv :: later => if kv.1 ∈ later.map Prod.fst then lastOfEach later else kv :: lastOfEach later

/-- A pair is the last with its name if no other follows it. -/
theorem mem_lastOfEach_iff {kv : String × String} {asked : List (String × String)} :
    kv ∈ lastOfEach asked ↔
      ∃ before later, asked = before ++ kv :: later ∧ kv.1 ∉ later.map Prod.fst := by
  induction asked with
  | nil => simp [lastOfEach]
  | cons e asked ih =>
    have hlater : (∃ before later, e :: asked = before ++ kv :: later
          ∧ kv.1 ∉ later.map Prod.fst) ↔
        (kv = e ∧ e.1 ∉ asked.map Prod.fst) ∨ kv ∈ lastOfEach asked := by
      rw [ih]
      constructor
      · rintro ⟨before, later, he, hkey⟩
        cases before with
        | nil =>
          obtain ⟨rfl, rfl⟩ := List.cons.inj he
          exact Or.inl ⟨rfl, hkey⟩
        | cons b before => exact Or.inr ⟨before, later, (List.cons.inj he).2, hkey⟩
      · rintro (⟨rfl, hkey⟩ | ⟨before, later, rfl, hkey⟩)
        · exact ⟨[], asked, rfl, hkey⟩
        · exact ⟨e :: before, later, rfl, hkey⟩
    rw [hlater, lastOfEach]
    split
    · rename_i hmem
      simp [hmem]
    · rename_i hmem
      rw [List.mem_cons]
      simp [hmem]

/-- The pairs that are kept stay in the order in which they were given. -/
theorem lastOfEach_sublist (asked : List (String × String)) :
    (lastOfEach asked).Sublist asked := by
  induction asked with
  | nil => exact .slnil
  | cons kv later ih =>
    rw [lastOfEach]
    split
    · exact ih.cons kv
    · exact ih.cons_cons kv

/-- No name is kept twice. -/
theorem nodup_lastOfEach (asked : List (String × String)) :
    ((lastOfEach asked).map Prod.fst).Nodup := by
  induction asked with
  | nil => exact .nil
  | cons kv later ih =>
    rw [lastOfEach]
    split
    next => exact ih
    next hlast =>
      rw [List.map_cons, List.nodup_cons]
      exact ⟨fun hkept => hlast (((lastOfEach_sublist later).map Prod.fst).subset hkept), ih⟩

theorem lastOfEach_eq_nil_iff {asked : List (String × String)} :
    lastOfEach asked = [] ↔ asked = [] := by
  induction asked with
  | nil => simp [lastOfEach]
  | cons kv asked ih =>
    rw [lastOfEach]
    split
    · rename_i hmem
      rw [ih]
      have hne : asked ≠ [] := by
        rintro rfl
        cases hmem
      simp [hne]
    · simp

namespace CallOptions

/-- The options after some query parameters were given, one after another. -/
def ask (o : CallOptions) (asked : List (String × String)) : CallOptions :=
  asked.foldl (fun o kv => o.withQuery kv.1 kv.2) o

/-- **What is kept of the parameters that are given**: the last with each name. -/
theorem queries_ask (o : CallOptions) (asked : List (String × String)) :
    (o.ask asked).queries
      = (o.queries.filter fun kv => kv.1 ∉ asked.map Prod.fst) ++ lastOfEach asked := by
  induction asked generalizing o with
  | nil => simp [ask, lastOfEach]
  | cons kv asked ih =>
    have hstep : (o.ask (kv :: asked)).queries = ((o.withQuery kv.1 kv.2).ask asked).queries := rfl
    rw [hstep, ih, withQuery]
    dsimp only
    rw [List.filter_append, List.filter_filter, List.append_assoc]
    refine congrArg₂ _ (List.filter_congr fun e _ => ?_) ?_
    · by_cases h : e.1 = kv.1 <;> simp [h]
    · rw [lastOfEach]
      split
      · rename_i hmem
        rw [List.filter_cons_of_neg (by simpa using hmem), List.filter_nil, List.nil_append]
      · rename_i hmem
        rw [List.filter_cons_of_pos (by simpa using hmem), List.filter_nil, List.singleton_append]

end CallOptions

/-! ### Parameters in the address -/

/-- Signing a request signs some pairs as its query: the request has a host, and whoever signs it
and whenever, what is signed is the canonical request with these pairs, one of whose lines is
made from them. So the signature that is sent is one over that line. -/
def Keyed.SignsQuery (r : Request) (pairs : List (String × String)) : Prop :=
  ∃ host, r.url.hostAndPort? = some host ∧ ∀ c now,
    let p : Parts := ⟨r.method, host, r.url.pathText, pairs, r.body⟩
    signRequest r c now
        = ({ r with headers := (sign r.headers p c now).1 }, (sign r.headers p c now).2)
      ∧ Signs r.headers p now (signedRequest r.headers p now)
      ∧ (signedRequest r.headers p now).text
          = "\n".intercalate (signedRequest r.headers p now).lines
      ∧ (signedRequest r.headers p now).lines[2]? = some (Canonical.query pairs)

/-- A request signs the query of its address, if the address has a host. -/
theorem Keyed.signsQuery_queryPairs {r : Request} (h : r.url.hostText? ≠ none) :
    SignsQuery r r.url.queryPairs := by
  obtain ⟨text, htext⟩ := Option.ne_none_iff_exists'.1 h
  obtain ⟨host, hhost⟩ : ∃ host, r.url.hostAndPort? = some host := by
    rw [Url.hostAndPort?, htext]
    exact ⟨_, rfl⟩
  refine ⟨host, hhost, fun c now => ⟨?_, signs_signedRequest _ _ now,
    Canonical.Request.text_eq _, rfl⟩⟩
  rw [signRequest, hhost]

namespace Request

/-- **Pairs added to the text of a served address** give the text of one that differs from it in
these pairs only, and the same text if there are none. -/
theorem exists_withQueries {address : String} {u : Url} (hparse : Url.parse address = .ok u)
    (hu : u.IsServed) (queries : List (String × String)) :
    ∃ text u', withQueries address queries = .ok text ∧ (queries = [] → text = address)
      ∧ Url.parse text = .ok u' ∧ u'.IsServed ∧ { u' with query := u.query } = u
      ∧ u'.queryPairs = u.queryPairs ++ queries := by
  cases queries with
  | nil => exact ⟨address, u, rfl, fun _ => rfl, hparse, hu, rfl, (List.append_nil _).symm⟩
  | cons kv rest =>
    have hlonger := hu.appendPairs (kv :: rest)
    refine ⟨_, u.appendPairs (kv :: rest), ?_, nofun, hlonger.parse_text, hlonger, ?_,
      Url.queryPairs_appendPairs u _⟩
    · rw [withQueries, hparse]
      rfl
    · rw [Url.appendPairs_eq]

/-- **Query parameters arrive as they were given.** Whatever parameters a call asks for, adding
them to the text of an address gives a text – the same one, if there are no parameters – that is
read as the same address with other pairs: those it had, and after them the last parameter with
each name, in the order in which these were given. From this text a request can be made; its
address has these pairs, and they are what is signed as its query. -/
theorem queries_arrive {address : String} {u : Url} (hparse : Url.parse address = .ok u)
    (hscheme : u.scheme = "http" ∨ u.scheme = "https") (o : CallOptions)
    (asked : List (String × String)) :
    let queries := (({ o with queries := [] } : CallOptions).ask asked).queries
    let pairs := u.queryPairs ++ lastOfEach asked
    ((lastOfEach asked).Sublist asked ∧ ((lastOfEach asked).map Prod.fst).Nodup ∧
      ∀ kv, kv ∈ lastOfEach asked ↔
        ∃ before later, asked = before ++ kv :: later ∧ kv.1 ∉ later.map Prod.fst) ∧
    ∃ text u', withQueries address queries = .ok text ∧ (asked = [] → text = address)
      ∧ Url.parse text = .ok u' ∧ { u' with query := u.query } = u ∧ u'.queryPairs = pairs
      ∧ ∀ method timeout, ∃ r, to? method text timeout = some r ∧ r.url.queryPairs = pairs
        ∧ ∀ headers body, Keyed.SignsQuery { r with headers := headers, body := body } pairs := by
  intro queries pairs
  have hserved : u.IsServed := by
    refine Url.isServed_of_parse hparse ?_
    rcases hscheme with h | h <;> rw [h] <;> rfl
  have hqueries : queries = lastOfEach asked := by
    dsimp only [queries]
    rw [CallOptions.queries_ask, List.filter_nil, List.nil_append]
  obtain ⟨text, u', htext, hsame, hread, hu', hrest, hpairs⟩ :=
    exists_withQueries hparse hserved queries
  rw [hqueries] at hsame
  replace hpairs : u'.queryPairs = pairs := hpairs.trans (congrArg _ hqueries)
  refine ⟨⟨lastOfEach_sublist asked, nodup_lastOfEach asked, fun _ => mem_lastOfEach_iff⟩,
    text, u', htext, fun h => hsame (lastOfEach_eq_nil_iff.2 h), hread, hrest, hpairs,
    fun method timeout => ?_⟩
  obtain ⟨r, hr, hgoes, -, -⟩ := exists_to? hread hu'.hostText?_ne_none method timeout
  have hrpairs : r.url.queryPairs = pairs := by
    rw [← hpairs]
    conv_rhs => rw [← hgoes.eq_of_user]
    rfl
  have hhost : r.url.hostText? ≠ none := hgoes.hostText? ▸ hu'.hostText?_ne_none
  refine ⟨r, hr, hrpairs, fun headers body => ?_⟩
  rw [← hrpairs]
  exact Keyed.signsQuery_queryPairs (r := { r with headers := headers, body := body }) hhost

/-- A parameter that is given twice arrives once, behind the query that the address has. -/
theorem queries_arrive_behind_query :
    let address := "http://h/p?x=0#f"
    let u : Url := ⟨"http", "", "", some (.name "h"), none, .segments ["p"], some "x=0", some "f"⟩
    let o := ({} : CallOptions).ask [("a", "1"), ("b", "2"), ("a", "3&4")]
    Url.parse address = .ok u ∧ u.scheme = "http" ∧
      ∃ text u', withQueries address o.queries = .ok text ∧ Url.parse text = .ok u'
        ∧ u'.queryPairs = [("x", "0"), ("b", "2"), ("a", "3&4")] := by
  intro address u o
  have hparse : Url.parse address = .ok u := by decide +kernel
  have hpairs : u.queryPairs ++ lastOfEach [("a", "1"), ("b", "2"), ("a", "3&4")]
      = [("x", "0"), ("b", "2"), ("a", "3&4")] := by decide +kernel
  obtain ⟨-, text, u', htext, -, hread, -, hqueries, -⟩ := queries_arrive hparse (Or.inl rfl) {}
    [("a", "1"), ("b", "2"), ("a", "3&4")]
  exact ⟨hparse, rfl, text, u', htext, hread, hqueries.trans hpairs⟩

end Request

end Courier
