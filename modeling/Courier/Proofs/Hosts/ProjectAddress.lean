import Courier.Hosts.Fetch
import Courier.Proofs.Url.Literal
import Courier.Settings.Validation
import Mathlib.Data.List.DropRight

/-!
# The address that is asked for a project

The address of the management server ends with the identifier of the project, which is put there
as it is. Whatever the identifier, it is an address that goes to the host, with the path of the
management server (`Courier.Fetcher.AsksFor`). What the server reads of the identifier is another
matter:

| what stands in the identifier | what becomes of it |
|---|---|
| white space or a control at the end | it is cut off |
| a tab or a line break | it is left out |
| `#` | it begins a fragment, which is not sent |
| `&` | it begins another pair |
| `+` | it is read as a space |
| a percent sign and two digits | it is read as a byte |

Every other text arrives (`Courier.IsLiteral`), spaces between others and characters beyond ASCII
included. A text with one of these does not arrive, whatever else stands in it
(`Courier.Fetcher.parse_address_iff`): they cannot make up for each other, since each takes a
character of ASCII away or changes a plus sign, and none brings one back.
-/

namespace Courier

open UrlReader

/-! ### Cutting at a sign -/

/-- A list is cut at the first place where something stands. -/
theorem exists_eq_takeWhile_append {α : Type} [DecidableEq α] {l : List α} {x : α} (hx : x ∈ l) :
    ∃ rest, l = l.takeWhile (· != x) ++ x :: rest := by
  rcases hrest : l.dropWhile (· != x) with _ | ⟨y, rest⟩
  · have hall := List.dropWhile_eq_nil_iff.1 hrest x hx
    simp at hall
  · have hy := List.head?_dropWhile_not (· != x) l
    rw [hrest] at hy
    obtain rfl : y = x := by simpa using hy
    exact ⟨rest, by rw [← hrest, List.takeWhile_append_dropWhile]⟩

theorem takeWhile_eq_self_of_notMem {α : Type} [DecidableEq α] {l : List α} {x : α} (hx : x ∉ l) :
    l.takeWhile (· != x) = l := by
  refine List.takeWhile_eq_self_iff.2 fun y hy => ?_
  rw [bne_iff_ne]
  rintro rfl
  exact hx hy

/-- What is not dropped stops the dropping from the end. -/
theorem rdropWhile_append_of_not {α : Type} {p : α → Bool} {l : List α}
    (hl : ∀ x ∈ l, p x = false) (r : List α) :
    (l ++ r).rdropWhile p = l ++ r.rdropWhile p := by
  induction r using List.reverseRecOn with
  | nil =>
    rw [List.append_nil, List.rdropWhile_nil, List.append_nil]
    exact List.rdropWhile_eq_self_iff.2 fun hne => by simp [hl _ (List.getLast_mem hne)]
  | append_singleton r x ih =>
    rw [← List.append_assoc]
    by_cases hx : p x = true
    · rw [List.rdropWhile_concat_pos _ _ _ hx, List.rdropWhile_concat_pos _ _ _ hx, ih]
    · rw [List.rdropWhile_concat_neg _ _ _ hx, List.rdropWhile_concat_neg _ _ _ hx,
        List.append_assoc]

/-! ### The end of an address -/

/-- White space and controls, which do not count at the ends of an address. -/
def isEdge (c : Char) : Bool := c.toNat ≤ 0x20

/-- What an address that ends with a text has of it: no white space and controls at the end, and
no tabs and line breaks. -/
def sent (s : String) : List Char := solid (s.toList.rdropWhile isEdge)

/-- What of it is the value of a pair: what stands before the signs that end queries and
pairs. -/
def sentValue (s : String) : List Char := ((sent s).takeWhile (· != '#')).takeWhile (· != '&')

/-- A text that is sent as it is. -/
structure IsWhole (s : String) : Prop where
  chars : ∀ c ∈ "#&\t\n\r".toList, c ∉ s.toList
  last : ∀ c ∈ s.toList.getLast?, 0x20 < c.toNat

/-- **A text that arrives as it is.** -/
structure IsLiteral (s : String) : Prop extends IsWhole s where
  plus : '+' ∉ s.toList
  codes : ¬HasCodeText s.toList

/-- What has lost no character of ASCII has them all. -/
theorem notMem_of_asciiChars_le {l l' : List Char} (hsub : l'.Sublist l)
    (hle : asciiChars l ≤ asciiChars l') {c : Char} (hc : c.toNat < 0x80) (hnot : c ∉ l') :
    c ∉ l := by
  induction hsub with
  | slnil => exact hnot
  | @cons l' l d hsub ih =>
    have hl : asciiChars l' ≤ asciiChars l := hsub.countP_le
    rw [asciiChars_cons] at hle
    -- a character of ASCII cannot have been left out
    have hd : ¬d.toNat < 0x80 := by
      intro hd
      rw [if_pos hd] at hle
      omega
    rw [if_neg hd, Nat.add_zero] at hle
    rw [List.mem_cons, not_or]
    exact ⟨fun hcd => hd (hcd ▸ hc), ih hle hnot⟩
  | @cons_cons l' l d hsub ih =>
    rw [asciiChars_cons, asciiChars_cons, Nat.add_le_add_iff_right] at hle
    rw [List.mem_cons, not_or] at hnot ⊢
    exact ⟨hnot.1, ih hle hnot.2⟩

theorem sentValue_sublist (s : String) : (sentValue s).Sublist (s.toList.rdropWhile isEdge) :=
  (List.takeWhile_sublist _).trans ((List.takeWhile_sublist _).trans List.filter_sublist)

/-- The signs that cut a text do not stand in the value. -/
theorem notMem_sentValue {s : String} {c : Char} (hc : c ∈ "#&\t\n\r".toList) :
    c ∉ sentValue s := by
  intro hmem
  have hquery := (List.takeWhile_sublist _).subset hmem
  have hamp := List.mem_takeWhile_imp hmem
  have hhash := List.mem_takeWhile_imp hquery
  have hbreak := (List.mem_filter.1 ((List.takeWhile_sublist _).subset hquery)).2
  have hall : ("#&\t\n\r".toList.any fun d => d != '&' && d != '#' && !isBreak d) = false := by
    decide
  refine List.any_eq_false.1 hall c hc ?_
  rw [hamp, hhash, hbreak]
  rfl

namespace IsWhole

/-- **A text of which no character of ASCII is lost is all there.** -/
theorem of_asciiChars_le {s : String} (hle : asciiChars s.toList ≤ asciiChars (sentValue s)) :
    IsWhole s where
  chars c hc := by
    have hascii : ("#&\t\n\r".toList.all fun d => d.toNat < 0x80) = true := by decide
    have hlt : c.toNat < 0x80 := of_decide_eq_true (List.all_eq_true.1 hascii c hc)
    have hsub := (sentValue_sublist s).trans (List.rdropWhile_prefix isEdge s.toList).sublist
    exact notMem_of_asciiChars_le hsub hle hlt (notMem_sentValue hc)
  last c hc := by
    by_contra hedge
    obtain ⟨front, hfront⟩ := List.getLast?_eq_some_iff.1 hc
    have hsub := sentValue_sublist s
    rw [hfront, List.rdropWhile_concat_pos isEdge front c (decide_eq_true (Nat.not_lt.1 hedge))]
      at hsub
    have hshort : asciiChars (sentValue s) ≤ asciiChars front :=
      (hsub.trans (List.rdropWhile_prefix isEdge front).sublist).countP_le
    have hcount : asciiChars s.toList = asciiChars front + 1 := by
      have hc' : c.toNat < 0x80 := by omega
      simp [asciiChars, hfront, List.countP_append, hc']
    omega

theorem sent_eq {s : String} (hs : IsWhole s) : sent s = s.toList := by
  have hlast : s.toList.rdropWhile isEdge = s.toList := by
    refine List.rdropWhile_eq_self_iff.2 fun hne hedge => ?_
    have hlt := hs.last _ (List.getLast?_eq_some_getLast hne)
    exact absurd (of_decide_eq_true hedge) (Nat.not_le.2 hlt)
  rw [sent, hlast]
  refine List.filter_eq_self.2 fun c hc => ?_
  rw [Bool.not_eq_true', Bool.eq_false_iff]
  intro hbreak
  have hmem : c ∈ "#&\t\n\r".toList := by
    simp only [isBreak, Bool.or_eq_true, beq_iff_eq] at hbreak
    rcases hbreak with (rfl | rfl) | rfl <;> decide
  exact hs.chars c hmem hc

theorem sentValue_eq {s : String} (hs : IsWhole s) : sentValue s = s.toList := by
  rw [sentValue, hs.sent_eq, takeWhile_eq_self_of_notMem (hs.chars '#' (by decide)),
    takeWhile_eq_self_of_notMem (hs.chars '&' (by decide))]

end IsWhole

/-- **A text is read from its value exactly if it is literal.** -/
theorem decodeText_sentValue_eq_iff {s : String} :
    Query.decodeText (utf8 (String.ofList (sentValue s))) = s ↔ IsLiteral s := by
  constructor
  · intro h
    have hle : asciiChars s.toList ≤ asciiChars (sentValue s) := by
      have hread := Query.asciiChars_decodeText_le (String.ofList (sentValue s))
      rwa [h, String.toList_ofList] at hread
    have hwhole := IsWhole.of_asciiChars_le hle
    rw [hwhole.sentValue_eq, String.ofList_toList] at h
    obtain ⟨hplus, hcodes⟩ := Query.decodeText_utf8_eq_self_iff.1 h
    exact ⟨hwhole, hplus, hcodes⟩
  · intro hs
    rw [hs.sentValue_eq, String.ofList_toList]
    exact Query.decodeText_utf8_eq_self_iff.2 ⟨hs.plus, hs.codes⟩

/-- **How an address ends with a text.** -/
theorem solid_trimmed {s t : String} {front : List Char} (hs : s.toList = front ++ t.toList)
    (hne : front ≠ []) (hfront : ∀ c ∈ front, 0x20 < c.toNat) :
    solid (trimmed s) = front ++ sent t := by
  have hedge : ∀ c ∈ front, isEdge c = false := by
    intro c hc
    exact decide_eq_false (Nat.not_le.2 (hfront c hc))
  have hdrop : (front ++ t.toList).dropWhile isEdge = front ++ t.toList := by
    obtain ⟨c, r, rfl⟩ := List.exists_cons_of_ne_nil hne
    rw [List.cons_append, List.dropWhile_cons_of_neg (by simp [hedge c List.mem_cons_self])]
  have htrimmed : trimmed s = front ++ t.toList.rdropWhile isEdge := by
    rw [← rdropWhile_append_of_not hedge]
    conv_rhs => rw [← hdrop]
    rw [← hs]
    rfl
  rw [htrimmed, solid, List.filter_append]
  have hkeep := solid_of_lt hfront
  rw [solid] at hkeep
  rw [hkeep]
  rfl

/-! ### Hosts as they are written -/

/-- The name of a host, and a port if one is written. -/
structure HostText where
  name : String
  port : Option Nat

namespace HostText

/-- **The text of a host.** -/
def text (t : HostText) : String :=
  t.name ++ match t.port with
    | some p => ":" ++ toString p
    | none => ""

/-- A text of a host whose name is that of a host: no character of the name begins another part
of an address. -/
structure Spells (t : HostText) (h : Host) : Prop where
  chars : ∀ c ∈ t.name.toList, Host.isHostChar c = true ∧ c ∉ ":[]".toList
  read : Host.ofText? t.name.toList = .ok h
  port : ∀ p ∈ t.port, p ≤ 65535

theorem toList_text (t : HostText) : t.text.toList = t.name.toList ++ Url.portText t.port := by
  unfold text Url.portText
  cases t.port <;> simp

variable {t : HostText} {h : Host}

theorem Spells.isHostChar (ht : t.Spells h) : ∀ c ∈ t.text.toList, Host.isHostChar c = true := by
  intro c hc
  rw [toList_text, List.mem_append] at hc
  rcases hc with hc | hc
  · exact (ht.chars c hc).1
  · exact Url.isHostChar_of_mem_portText hc

/-- The name of a host is not empty. -/
theorem Spells.name_ne_nil (ht : t.Spells h) : t.name.toList ≠ [] := by
  intro hnil
  have hread := ht.read
  rw [hnil] at hread
  have hempty : Host.ofText? [] = .error .emptyHost := by decide +kernel
  rw [hempty] at hread
  cases hread

/-- A name ends before the port. -/
theorem Spells.spanHost_eq (ht : t.Spells h) :
    spanHost false (t.name.toList ++ Url.portText t.port)
      = (t.name.toList, Url.portText t.port) := by
  have hchars : ∀ c ∈ t.name.toList, c ∉ ":[]".toList := fun c hc => (ht.chars c hc).2
  generalize t.name.toList = name at hchars
  induction name with
  | nil => exact spanHost_portText _ (Url.isPortText_portText t.port)
  | cons c cs ih =>
    rw [List.forall_mem_cons] at hchars
    have hne : c ≠ ':' ∧ c ≠ '[' ∧ c ≠ ']' := by simpa using hchars.1
    rw [List.cons_append, spanHost, if_neg (by simp [hne.1]), if_neg hne.2.1, if_neg hne.2.2,
      ih hchars.2]

/-- The port is read, unless it is the one that goes without saying. -/
theorem Spells.portAndRest?_eq (ht : t.Spells h) {r : List Char}
    (hr : ∀ c ∈ r.head?, endsAuthority true c = true) :
    Url.portAndRest? "http" (Url.portText t.port) r = .ok (t.port.filter (· ≠ 80), r) := by
  rcases hport : t.port with _ | p
  · rfl
  · have hread := @port?_toDigits "http" p (ht.port p hport) r hr
    have hdefault : Url.defaultPort? "http" = some 80 := rfl
    rw [Url.portText, Url.portAndRest?, hread, hdefault]
    by_cases hp : p = 80
    · subst hp
      rfl
    · rw [if_neg (by simpa using Ne.symm hp), Option.filter_some, if_pos (by simpa using hp)]

end HostText

/-! ### The query of the address -/

namespace Query

/-- The name of the pair, and the sign between it and its value. -/
def idKey : List Char := "project_id=".toList

/-- What a query with a text as the value of `project_id` is written as. -/
theorem encode_projectId (cs : List Char) :
    UrlCoding.encode UrlCoding.specialQuery (idKey ++ cs)
      = idKey ++ UrlCoding.encode UrlCoding.specialQuery cs := by
  have hname : UrlCoding.encode UrlCoding.specialQuery idKey
      = idKey := UrlCoding.encode_of_isWritten (List.all_eq_true.1 (by decide))
  conv_rhs => rw [← hname]
  exact List.flatMap_append

/-- A text that a query has as the value of `project_id`. -/
theorem decode_encode_projectId {cs : List Char} (hcs : '&' ∉ cs) :
    decode (String.ofList
        (UrlCoding.encode UrlCoding.specialQuery (idKey ++ cs)))
      = [("project_id", decodeText (utf8 (String.ofList cs)))] := by
  rw [encode_projectId]
  have hbytes : utf8 (String.ofList
      (idKey ++ UrlCoding.encode UrlCoding.specialQuery cs))
      = utf8 "project_id"
        ++ 0x3D :: utf8 (String.ofList (UrlCoding.encode UrlCoding.specialQuery cs)) := by
    rw [String.ofList_append, utf8_append]
    rfl
  have hamp : 0x26 ∉ utf8 (String.ofList
      (idKey ++ UrlCoding.encode UrlCoding.specialQuery cs)) := by
    refine ofNat_notMem_utf8 (c := '&') (by decide) fun hmem => ?_
    rw [String.toList_ofList, List.mem_append] at hmem
    rcases hmem with hmem | hmem
    · exact absurd hmem (by decide)
    · rcases UrlCoding.isPlace_specialQuery.mem_or_isCodeChar_of_mem_encode hmem with hmem | hcode
      · exact hcs hmem
      · exact absurd hcode (by decide)
  have hcut : (utf8 "project_id"
        ++ 0x3D :: utf8 (String.ofList (UrlCoding.encode UrlCoding.specialQuery cs))).span
          (· ≠ 0x3D)
      = (utf8 "project_id",
        0x3D :: utf8 (String.ofList (UrlCoding.encode UrlCoding.specialQuery cs))) := by
    refine span_append (List.all_eq_true.1 (by decide)) fun b hb => ?_
    rw [← Option.some.inj hb]
    rfl
  have hname : decodeText (utf8 "project_id") = "project_id" := by decide +kernel
  rw [decode, List.splitOn_eq_singleton hamp, hbytes, List.filter_cons_of_pos (by simp),
    List.filter_nil, List.map_singleton, decodePair, hcut]
  dsimp only
  rw [hname, decodeText_encode_specialQuery]

/-- The value ends before the sign that ends a pair. -/
theorem exists_decode_encode_projectId (cs : List Char) :
    ∃ more, decode (String.ofList
        (UrlCoding.encode UrlCoding.specialQuery (idKey ++ cs)))
      = ("project_id", decodeText (utf8 (String.ofList (cs.takeWhile (· != '&'))))) :: more ∧
      ('&' ∉ cs → more = []) := by
  by_cases hamp : '&' ∈ cs
  · obtain ⟨rest, hcs⟩ := exists_eq_takeWhile_append hamp
    have hvalue : '&' ∉ cs.takeWhile (· != '&') := by
      intro hmem
      simpa using List.mem_takeWhile_imp hmem
    refine ⟨decode (String.ofList (UrlCoding.encode UrlCoding.specialQuery rest)), ?_,
      fun hnot => absurd hamp hnot⟩
    have htext : String.ofList (UrlCoding.encode UrlCoding.specialQuery (idKey ++ cs))
        = String.ofList (UrlCoding.encode UrlCoding.specialQuery
            (idKey ++ cs.takeWhile (· != '&')))
          ++ "&" ++ String.ofList (UrlCoding.encode UrlCoding.specialQuery rest) := by
      have hsign : UrlCoding.encode UrlCoding.specialQuery ['&'] = ['&'] := by decide
      rw [UrlCoding.encode, List.flatMap_cons, List.flatMap_nil, List.append_nil] at hsign
      conv_lhs => rw [hcs]
      refine String.toList_inj.1 ?_
      simp only [UrlCoding.encode, List.flatMap_append, List.flatMap_cons, hsign,
        String.toList_append, String.toList_ofList, List.append_assoc, List.singleton_append]
      rfl
    rw [htext, decode_append, decode_encode_projectId hvalue, List.singleton_append]
  · refine ⟨[], ?_, fun _ => rfl⟩
    rw [decode_encode_projectId hamp, takeWhile_eq_self_of_notMem hamp]

end Query

/-- A text is cut at the sign that begins a fragment. -/
theorem exists_fragmentText_eq (cs : List Char) :
    ∃ fragment, cs = cs.takeWhile (· != '#') ++ fragmentText fragment ∧
      (fragment = none ↔ '#' ∉ cs) := by
  by_cases hhash : '#' ∈ cs
  · obtain ⟨rest, hcs⟩ := exists_eq_takeWhile_append hhash
    refine ⟨some (String.ofList rest), ?_, by simp [hhash]⟩
    rwa [fragmentText, String.toList_ofList]
  · refine ⟨none, ?_, by simp [hhash]⟩
    rw [fragmentText, List.append_nil, takeWhile_eq_self_of_notMem hhash]

namespace Fetcher

/-- **What an address asks for**: the host maps of a project, from a host. -/
structure AsksFor (u : Url) (h : Host) (port : Option Nat) : Prop where
  scheme : u.scheme = "http"
  user : u.username = "" ∧ u.password = ""
  host : u.host = some h
  port : u.port = port
  path : u.path = .segments ["data", "api", "sdk", "host"]

/-- The segments of the path of the management server. -/
def segments : List String := ["data", "api", "sdk", "host"]

/-- What stands in front of the identifier. -/
def front (t : HostText) : List Char :=
  "http".toList ++ ':' :: '/' :: '/' ::
    (t.text.toList ++ (Url.pathChars segments ++ '?' :: Query.idKey))

theorem toList_address (f : Fetcher) (t : HostText) :
    (f.address t.text).toList = front t ++ f.projectId.toList := by
  have hpath : path.toList = Url.pathChars segments := by decide
  have hkey : "?project_id=".toList = '?' :: Query.idKey := rfl
  have hscheme : "http://".toList = "http".toList ++ [':', '/', '/'] := rfl
  simp only [address, front, String.toList_append, hpath, hkey, hscheme, List.append_assoc,
    List.cons_append, List.nil_append]

theorem lt_of_mem_front {t : HostText} {h : Host} (ht : t.Spells h) :
    ∀ c ∈ front t, 0x20 < c.toNat := by
  have hfixed : (("http".toList ++ ':' :: '/' :: '/' :: (Url.pathChars segments
      ++ '?' :: Query.idKey)).all fun c => 0x20 < c.toNat) = true := by decide
  intro c hc
  by_cases hmem : c ∈ t.text.toList
  · exact (Url.isInner_of_isHostChar (ht.isHostChar c hmem)).visible
  · refine of_decide_eq_true (List.all_eq_true.1 hfixed c ?_)
    simpa only [front, List.mem_append, List.mem_cons, hmem, false_or] using hc

/-- **A host is asked, whatever follows it.** -/
theorem withAuthority_text {t : HostText} {h : Host} (ht : t.Spells h) {tail : List Char}
    (htail : ∀ c ∈ tail.head?, endsAuthority true c = true) :
    Url.withAuthority "http" (t.text.toList ++ tail)
      = .ok (Url.assemble "http" ("", "") h (t.port.filter (· ≠ 80)) tail) := by
  have hcut : (t.text.toList ++ tail).span (fun c => !endsAuthority true c)
      = (t.text.toList, tail) := by
    refine span_append (fun c hc => ?_) fun c hc => ?_
    · rw [(Url.isInner_of_isHostChar (ht.isHostChar c hc)).notEnd]
      rfl
    · rw [htail c hc]
      rfl
  have huser : Url.userAndHost t.text.toList = ([], t.text.toList) := by
    have hat : '@' ∉ t.text.toList := fun hmem => absurd (ht.isHostChar _ hmem) (by decide)
    rw [Url.userAndHost, splitAtLast?_of_notMem hat, Option.getD_none]
  have hspan : spanHost false t.text.toList = (t.name.toList, Url.portText t.port) := by
    rw [HostText.toList_text, ht.spanHost_eq]
  have hne : t.text.toList ≠ [] := by
    rw [HostText.toList_text]
    exact List.append_ne_nil_of_left_ne_nil ht.name_ne_nil _
  rw [Url.withAuthority_eq rfl hcut huser hspan, if_neg fun he => hne he.1,
    if_neg ht.name_ne_nil, ht.read, Except.bind, ht.portAndRest?_eq htail]
  rfl

/-- The two slashes are the only ones in front of the host. -/
theorem parse_of_scheme?_eq {t : HostText} {h : Host} (ht : t.Spells h) {s : String}
    {tail : List Char}
    (hscheme : scheme? (solid (trimmed s)) = some ("http", '/' :: '/' :: (t.text.toList ++ tail))) :
    Url.parse s = Url.withAuthority "http" (t.text.toList ++ tail) := by
  have hfile : Url.isFile "http" = false := by decide
  have hspecial : Url.isSpecial "http" = true := rfl
  have hslash : isSlash true '/' = true := rfl
  have hkept : (t.text.toList ++ tail).dropWhile (isSlash true) = t.text.toList ++ tail := by
    obtain ⟨c, r, hname⟩ := List.exists_cons_of_ne_nil ht.name_ne_nil
    have hc : isSlash true c = false := by
      have hinner := Url.isInner_of_isHostChar (ht.chars c (by simp [hname])).1
      have hend := hinner.notEnd
      simp only [endsAuthority, Bool.or_eq_false_iff] at hend
      exact hend.1.1
    rw [HostText.toList_text, hname, List.cons_append, List.cons_append,
      List.dropWhile_cons_of_neg (by simp [hc])]
  simp only [Url.parse, hscheme, hfile, hspecial, Bool.false_eq_true, if_false, if_true,
    List.dropWhile_cons_of_pos, hslash, hkept]

/-- **The address is one**, whatever the identifier. It asks the host, and its query and its
fragment hold what is sent of the identifier. -/
theorem parse_address {t : HostText} {h : Host} (ht : t.Spells h) (f : Fetcher) :
    ∃ u, Url.parse (f.address t.text) = .ok u ∧ AsksFor u h (t.port.filter (· ≠ 80)) ∧
      (u.fragment = none ↔ '#' ∉ sent f.projectId) ∧
      u.query = some (String.ofList (UrlCoding.encode UrlCoding.specialQuery
        (Query.idKey ++ (sent f.projectId).takeWhile (· != '#')))) := by
  obtain ⟨fragment, hsent, hfragment⟩ := exists_fragmentText_eq (sent f.projectId)
  generalize hquery : Query.idKey ++ (sent f.projectId).takeWhile (· != '#') = query
  have hlist : (String.ofList query).toList = query := String.toList_ofList
  -- what follows the host
  generalize htail : Url.pathChars segments ++ tailText (some (String.ofList query)) fragment = tail
  have hends : ∀ c ∈ tail.head?, endsAuthority true c = true := by
    intro c hc
    rw [← htail] at hc
    obtain rfl : '/' = c := Option.some.inj hc
    rfl
  have hsplit : splitTail tail
      = (Url.pathChars segments, some query, fragment.map String.toList) := by
    have hpath : ((Url.pathChars segments).all fun c => c ≠ '?' ∧ c ≠ '#') = true := by decide
    rw [← htail, splitTail_append (fun c hc => of_decide_eq_true (List.all_eq_true.1 hpath c hc))
      (fun q hq => ?_), Option.map_some, hlist]
    rw [← Option.some.inj hq, hlist, ← hquery, List.mem_append, not_or]
    exact ⟨by decide, fun hmem => by simpa using List.mem_takeWhile_imp hmem⟩
  have htext : front t ++ sent f.projectId
      = "http".toList ++ ':' :: '/' :: '/' :: (t.text.toList ++ tail) := by
    rw [← htail, tailText, hlist, ← hquery]
    conv_lhs => rw [hsent]
    simp only [front, List.append_assoc, List.cons_append]
  have hscheme : scheme? (solid (trimmed (f.address t.text)))
      = some ("http", '/' :: '/' :: (t.text.toList ++ tail)) := by
    rw [solid_trimmed (toList_address f t) (by simp [front]) (lt_of_mem_front ht), htext]
    exact @scheme?_append "http" rfl _
  have hparse : Url.parse (f.address t.text)
      = .ok (Url.assemble "http" ("", "") h (t.port.filter (· ≠ 80)) tail) := by
    rw [← withAuthority_text ht hends]
    exact parse_of_scheme?_eq ht hscheme
  refine ⟨_, hparse, ⟨rfl, ⟨rfl, rfl⟩, rfl, rfl, ?_⟩, ?_, ?_⟩
  · have hpath : pathAfterAuthority true (Url.pathChars segments) = segments := by decide +kernel
    rw [Url.assemble, hsplit, Url.withTail, hpath]
    rfl
  · rw [← hfragment, Url.assemble, hsplit, Url.withTail]
    simp
  · rw [Url.assemble, hsplit, Url.withTail]
    rfl

/-- Whatever the host is, an address that is asked goes to a server. -/
theorem isServed_of_parse_address {f : Fetcher} {host : String} {u : Url}
    (h : Url.parse (f.address host) = .ok u) : u.IsServed := by
  generalize hrest : host ++ path ++ "?project_id=" ++ f.projectId = rest
  have htext : (f.address host).toList = "http://".toList ++ rest.toList := by
    rw [← String.toList_append, ← hrest, address]
    simp only [String.append_assoc]
  have hvisible : ∀ c ∈ "http://".toList, 0x20 < c.toNat := by simp
  have hscheme : scheme? (solid (trimmed (f.address host)))
      = some ("http", '/' :: '/' :: sent rest) := by
    rw [solid_trimmed htext (by decide) hvisible]
    exact @scheme?_append "http" rfl _
  exact Url.isServed_of_parse_of_scheme? h hscheme rfl

/-- **What arrives of an identifier.** The address that is asked goes to the host, on the path of
the management server; and it has no fragment, and the identifier as its only pair, exactly if
the identifier is literal. -/
theorem parse_address_iff {t : HostText} {h : Host} (ht : t.Spells h) (f : Fetcher) :
    ∃ u, Url.parse (f.address t.text) = .ok u ∧ AsksFor u h (t.port.filter (· ≠ 80)) ∧
      (u.fragment = none ∧ u.queryPairs = [("project_id", f.projectId)]
        ↔ IsLiteral f.projectId) := by
  obtain ⟨u, hparse, hasks, hfragment, hquery⟩ := parse_address ht f
  refine ⟨u, hparse, hasks, ?_⟩
  obtain ⟨more, hpairs, hmore⟩ :=
    Query.exists_decode_encode_projectId ((sent f.projectId).takeWhile (· != '#'))
  have hread : u.queryPairs = ("project_id",
      Query.decodeText (utf8 (String.ofList (sentValue f.projectId)))) :: more := by
    rw [Url.queryPairs, hquery, Option.getD_some, hpairs]
    rfl
  rw [hread, hfragment]
  constructor
  · rintro ⟨-, hone⟩
    obtain ⟨hpair, -⟩ := List.cons.inj hone
    exact decodeText_sentValue_eq_iff.1 (Prod.mk.inj hpair).2
  · intro hs
    have hhash : '#' ∉ sent f.projectId := by
      rw [hs.sent_eq]
      exact hs.chars '#' (by decide)
    have hamp : '&' ∉ (sent f.projectId).takeWhile (· != '#') := by
      rw [hs.sent_eq]
      exact fun hmem => hs.chars '&' (by decide) ((List.takeWhile_sublist _).subset hmem)
    rw [decodeText_sentValue_eq_iff.2 hs, hmore hamp]
    exact ⟨hhash, rfl⟩

/-- An identifier that settings may have, and that does not arrive: the server is asked for the
project `a`. -/
theorem parse_address_ampersand :
    let f : Fetcher := .ofAttempts "a&b" 5000 3
    isGivenBlank (some f.projectId) = false ∧
      ∃ u, Url.parse (f.address "h:8080") = .ok u ∧ AsksFor u (.name "h") (some 8080) ∧
        ¬(u.fragment = none ∧ u.queryPairs = [("project_id", f.projectId)]) ∧
        u.queryPairs = [("project_id", "a"), ("b", "")] := by
  intro f
  have ht : HostText.Spells ⟨"h", some 8080⟩ (.name "h") := by
    refine ⟨fun c hc => ?_, by decide +kernel, fun p hp => ?_⟩
    · obtain rfl : c = 'h' := by simpa using hc
      decide
    · obtain rfl : 8080 = p := Option.some.inj hp
      decide
  have htext : HostText.text ⟨"h", some 8080⟩ = "h:8080" := by decide
  obtain ⟨u, hparse, hasks, hiff⟩ := parse_address_iff ht f
  rw [htext] at hparse
  have hpairs : u.queryPairs = [("project_id", "a"), ("b", "")] := by
    have hread : (Url.parse (f.address "h:8080")).map Url.queryPairs
        = .ok [("project_id", "a"), ("b", "")] := by decide +kernel
    rw [hparse] at hread
    exact Except.ok.inj hread
  refine ⟨by decide, u, hparse, hasks, fun hboth => ?_, hpairs⟩
  exact (hiff.1 hboth).chars '&' (by decide) (by decide)

end Fetcher

end Courier
