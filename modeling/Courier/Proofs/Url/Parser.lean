import Courier.Proofs.Url.Cutting

/-!
# Reading an address again

The text of an address that was read is read as the same address (`Courier.Url.parse_text`), as
long as its scheme has a server. Of such an address reading leaves each part in the form in
which it is written (`Courier.Url.IsServed`, `Courier.Url.isServed_of_parse`), and in this form
no part holds a character that begins another part:

| part | ends before | why it is not in the part |
|---|---|---|
| user | the last `@` of the authority | the user is coded, and no host holds it |
| host | the first `:` outside brackets | only numbers stand in brackets |
| port | the path | it is a number |
| path | `?` or `#` | segments are coded |
| query | `#` | it is coded |

Whatever keeps to the form may be changed: an address with another query is read again as well.
-/

namespace Courier

open UrlReader UrlCoding

namespace Url

/-! ### Addresses whose scheme has a server -/

/-- The parts of an address whose scheme has a server, as they are written. -/
structure IsServed (u : Url) : Prop where
  scheme : (defaultPort? u.scheme).isSome
  username : ∀ c ∈ u.username.toList, isWritten userinfo c = true
  password : ∀ c ∈ u.password.toList, isWritten userinfo c = true
  host : ∃ h, u.host = some h ∧ h.IsWritten
  port : ∀ p ∈ u.port, p ≤ 65535 ∧ defaultPort? u.scheme ≠ some p
  path : ∃ s l, u.path = .segments (s :: l) ∧ ∀ t ∈ s :: l, IsSegment t.toList
  query : ∀ q ∈ u.query, ∀ c ∈ q.toList, isWritten specialQuery c = true
  fragment : ∀ f ∈ u.fragment, ∀ c ∈ f.toList, isWritten UrlCoding.fragment c = true

/-- A served address has a host. -/
theorem IsServed.hostText?_ne_none {u : Url} (hu : u.IsServed) : u.hostText? ≠ none := by
  obtain ⟨h, hhost, hw⟩ := hu.host
  have hne : h.text ≠ "" := fun he => hw.text_ne_empty (by rw [he]; rfl)
  simp [hostText?, hhost, hne]

/-- User name and password as they stand before the sign that ends them. -/
def userChars (u : Url) : List Char :=
  u.username.toList ++ if u.password = "" then [] else ':' :: u.password.toList

/-- A text of written characters, as a text. -/
theorem ofList_encode_toList {set : UInt8 → Bool} {s : String}
    (h : ∀ c ∈ s.toList, isWritten set c = true) : String.ofList (encode set s.toList) = s := by
  rw [encode_of_isWritten h, String.ofList_toList]

/-- **User name and password are read again.** -/
theorem user_userChars {u : Url} (hu : u.IsServed) :
    user u.userChars = (u.username, u.password) := by
  have hcolon : ∀ c ∈ u.username.toList, (c != ':') = true := by
    intro c hc
    rw [bne_iff_ne]
    rintro rfl
    exact absurd (hu.username ':' hc) (by decide)
  have hcut : u.userChars.span (· != ':')
      = (u.username.toList, if u.password = "" then [] else ':' :: u.password.toList) := by
    refine span_append hcolon fun c hc => ?_
    split at hc
    · cases hc
    · rw [← Option.some.inj hc]
      rfl
  simp only [user, hcut, ofList_encode_toList hu.username, Prod.mk.injEq, true_and]
  split
  · rename_i hp
    rw [hp]
    rfl
  · rw [List.drop_succ_cons, List.drop_zero, ofList_encode_toList hu.password]

theorem toList_userText (u : Url) :
    u.userText.toList
      = if u.username = "" ∧ u.password = "" then [] else u.userChars ++ ['@'] := by
  unfold userText userChars
  split
  · rfl
  · split <;> simp

/-- A port with the colon in front of it. -/
def portText : Option Nat → List Char
  | some p => ':' :: Nat.toDigits 10 p
  | none => []

theorem isPortText_portText (port : Option Nat) : IsPortText (portText port) := by
  intro c hc
  cases port with
  | none => cases hc
  | some p => exact (Option.some.inj hc).symm

/-- The segments of a path with a slash in front of each. -/
def pathChars (parts : List String) : List Char := parts.flatMap fun t => '/' :: t.toList

/-- **The text of an address**, part by part. -/
theorem toList_text {u : Url} {h : Host} {parts : List String} (hhost : u.host = some h)
    (hpath : u.path = .segments parts) :
    u.text.toList = u.scheme.toList ++ ':' :: '/' :: '/' ::
      ((u.userText.toList ++ (h.text.toList ++ portText u.port))
        ++ (pathChars parts ++ tailText u.query u.fragment)) := by
  have hparts : (String.join (parts.map ("/" ++ ·))).toList = pathChars parts := by
    simp [pathChars, String.toList_join, List.flatMap_def, Function.comp_def]
  simp only [text, textWithoutFragment, authorityText, pathText, hhost, hpath]
  cases u.port <;> cases u.query <;> cases u.fragment <;>
    simp [hparts, portText, tailText, fragmentText]

/-! ### No part begins another one -/

/-- A character that stands for itself, as a part of the text. -/
structure IsInner (c : Char) : Prop where
  visible : 0x20 < c.toNat
  notEnd : endsAuthority true c = false

theorem notEnd_of_any {p : Char → Bool} (hp : "/\\?#".toList.any p = false) {c : Char}
    (hc : p c = true) : endsAuthority true c = false := by
  rw [Bool.eq_false_iff]
  intro hends
  simp only [endsAuthority, isSlash, Bool.true_and, Bool.or_eq_true, beq_iff_eq] at hends
  refine List.any_eq_false.1 hp c ?_ hc
  rcases hends with ((rfl | rfl) | rfl) | rfl <;> decide

theorem isInner_of_isWritten {c : Char} (hc : isWritten userinfo c = true) : IsInner c :=
  ⟨isPlace_userinfo.lt_of_isWritten hc, notEnd_of_any (by decide) hc⟩

theorem isInner_of_isHostChar {c : Char} (hc : Host.isHostChar c = true) : IsInner c := by
  refine ⟨?_, notEnd_of_any (by decide) hc⟩
  simp only [Host.isHostChar, Bool.and_eq_true, decide_eq_true_eq] at hc
  exact hc.1

theorem isHostChar_of_mem_portText {port : Option Nat} {c : Char} (hc : c ∈ portText port) :
    Host.isHostChar c = true := by
  cases port with
  | none => cases hc
  | some p =>
    rcases List.mem_cons.1 hc with rfl | hc
    · decide
    · obtain ⟨d, hd, rfl⟩ := Host.exists_of_mem_toDigits (by decide) hc
      have key : ∀ d < 10, Host.isHostChar (Nat.digitChar d) = true := by decide
      exact key d hd

/-- **No character of an authority ends it.** -/
theorem IsServed.isInner {u : Url} (hu : u.IsServed) {h : Host} (hw : h.IsWritten) :
    ∀ c ∈ u.userText.toList ++ (h.text.toList ++ portText u.port), IsInner c := by
  intro c hc
  rw [List.mem_append, List.mem_append, toList_userText] at hc
  rcases hc with hc | hc | hc
  · split at hc
    · cases hc
    · rw [userChars, List.mem_append, List.mem_append, List.mem_singleton] at hc
      rcases hc with (hc | hc) | rfl
      · exact isInner_of_isWritten (hu.username c hc)
      · split at hc
        · cases hc
        · rcases List.mem_cons.1 hc with rfl | hc
          · exact ⟨by decide, by decide⟩
          · exact isInner_of_isWritten (hu.password c hc)
      · exact ⟨by decide, by decide⟩
  · exact isInner_of_isHostChar (hw.isBracketed.isHostChar c hc)
  · exact isInner_of_isHostChar (isHostChar_of_mem_portText hc)

theorem mem_pathChars {parts : List String} {c : Char} (hc : c ∈ pathChars parts) :
    c = '/' ∨ ∃ t ∈ parts, c ∈ t.toList := by
  obtain ⟨t, ht, hc⟩ := List.mem_flatMap.1 hc
  rcases List.mem_cons.1 hc with rfl | hc
  · exact Or.inl rfl
  · exact Or.inr ⟨t, ht, hc⟩

theorem lt_of_mem_scheme {scheme : String} (h : (defaultPort? scheme).isSome) :
    ∀ c ∈ scheme.toList, 0x20 < c.toNat := by
  have key : (scheme.toList.all fun c => 0x20 < c.toNat) = true := by
    unfold defaultPort? at h
    split at h
    case h_6 => cases h
    all_goals decide
  simpa using key

theorem IsServed.lt_of_mem_tailText {u : Url} (hu : u.IsServed) :
    ∀ c ∈ tailText u.query u.fragment, 0x20 < c.toNat := by
  have hfragment : ∀ c ∈ fragmentText u.fragment, 0x20 < c.toNat := by
    intro c hc
    cases hf : u.fragment with
    | none =>
      rw [hf] at hc
      cases hc
    | some f =>
      rw [hf] at hc
      rcases List.mem_cons.1 hc with rfl | hc
      · decide
      · exact isPlace_fragment.lt_of_isWritten (hu.fragment f hf c hc)
  intro c hc
  cases hq : u.query with
  | none =>
    rw [hq] at hc
    exact hfragment c hc
  | some q =>
    rw [hq, tailText, List.mem_cons, List.mem_append] at hc
    rcases hc with rfl | hc | hc
    · decide
    · exact isPlace_specialQuery.lt_of_isWritten (hu.query q hq c hc)
    · exact hfragment c hc

/-- **The text of an address holds no white space and no controls.** -/
theorem IsServed.lt_of_mem_text {u : Url} (hu : u.IsServed) :
    ∀ c ∈ u.text.toList, 0x20 < c.toNat := by
  obtain ⟨h, hhost, hw⟩ := hu.host
  obtain ⟨s, l, hpath, hl⟩ := hu.path
  intro c hc
  rw [toList_text hhost hpath, List.mem_append, List.mem_cons, List.mem_cons, List.mem_cons,
    List.mem_append, List.mem_append (s := pathChars _)] at hc
  rcases hc with hc | rfl | rfl | rfl | hc | hc | hc
  · exact lt_of_mem_scheme hu.scheme c hc
  · decide
  · decide
  · decide
  · exact (hu.isInner hw c hc).visible
  · rcases mem_pathChars hc with rfl | ⟨t, ht, hc⟩
    · decide
    · exact isPlace_path.lt_of_isWritten ((hl t ht).written c hc)
  · exact hu.lt_of_mem_tailText c hc

/-- A scheme with a server divides an address into host and path. -/
theorem isSpecial_of_isSome {scheme : String} (h : (defaultPort? scheme).isSome) :
    isSpecial scheme = true := by
  rw [isSpecial, h, Bool.true_or]

/-! ### Reading again -/

/-- A part that is written in its place is read as it is. -/
theorem map_ofList_encode {set : UInt8 → Bool} {part : Option String}
    (h : ∀ s ∈ part, ∀ c ∈ s.toList, isWritten set c = true) :
    (part.map String.toList).map (fun cs => String.ofList (encode set cs)) = part := by
  cases part with
  | none => rfl
  | some s =>
    rw [Option.map_some, Option.map_some, ofList_encode_toList (h s rfl)]

theorem IsServed.withTail_eq {u : Url} (hu : u.IsServed) :
    Url.withTail { u with query := none, fragment := none } (u.query.map String.toList)
      (u.fragment.map String.toList) = u := by
  rw [withTail]
  dsimp only
  rw [if_pos (isSpecial_of_isSome hu.scheme), map_ofList_encode hu.query,
    map_ofList_encode hu.fragment]

/-- The port and what follows the authority. -/
def portAndRest? (scheme : String) (port rest : List Char) :
    Except UrlError (Option Nat × List Char) :=
  match port with
  | _ :: p => port? scheme (p ++ rest)
  | [] => .ok (none, rest)

/-- An address from its user, its host, its port and what follows them. -/
def assemble (scheme : String) (user : String × String) (host : Host) (port : Option Nat)
    (rest : List Char) : Url :=
  Url.withTail ⟨scheme, user.1, user.2, some host, port,
    .segments (pathAfterAuthority true (splitTail rest).1), none, none⟩
    (splitTail rest).2.1 (splitTail rest).2.2

/-- An authority cut into user and the rest. -/
def userAndHost (authority : List Char) : List Char × List Char :=
  (splitAtLast? '@' authority).getD ([], authority)

/-- **How an authority and what follows it are read** for a scheme with a server. -/
theorem withAuthority_eq {scheme : String} (hs : isSpecial scheme = true) {cs authority rest w r
    host port : List Char} (hcut : cs.span (fun c => !endsAuthority true c) = (authority, rest))
    (huser : userAndHost authority = (w, r)) (hspan : spanHost false r = (host, port)) :
    withAuthority scheme cs =
      if r = [] ∧ ((user w).1 ≠ "" ∨ (user w).2 ≠ "" ∨ (authority = ['@'] ∧ rest ≠ [])) then
        .error .emptyHost
      else if host = [] then .error .emptyHost
      else (Host.ofText? host).bind fun h =>
        (portAndRest? scheme port rest).map fun p => assemble scheme (user w) h p.1 p.2 := by
  unfold withAuthority
  unfold userAndHost at huser
  cases hsplit : splitAtLast? '@' authority with
  | none =>
    rw [hsplit] at huser
    obtain ⟨rfl, rfl⟩ := Prod.mk.inj huser
    simp only [hs, hcut, hsplit, hspan, if_true, true_or, and_true]
    split
    · rfl
    · split
      · rfl
      · cases port <;> rfl
  | some cut =>
    rw [hsplit] at huser
    obtain rfl : cut = (w, r) := huser
    simp only [hs, hcut, hsplit, hspan, if_true, true_or, and_true]
    split
    · rfl
    · split
      · rfl
      · cases port <;> rfl

/-- **The user of an authority ends before the last `@`**, if there is one. -/
theorem exists_userAndHost_userText {u : Url} (hu : u.IsServed) {r : List Char} (hr : '@' ∉ r) :
    ∃ w, userAndHost (u.userText.toList ++ r) = (w, r) ∧ user w = (u.username, u.password) := by
  unfold userAndHost
  rw [toList_userText]
  split
  · rename_i hempty
    refine ⟨[], ?_, ?_⟩
    · rw [List.nil_append, splitAtLast?_of_notMem hr]
      rfl
    · rw [hempty.1, hempty.2]
      rfl
  · refine ⟨u.userChars, ?_, user_userChars hu⟩
    rw [List.append_assoc, List.singleton_append, splitAtLast?_append hr]
    rfl

/-- Behind the path come the query and the fragment. -/
theorem IsServed.splitTail_pathChars {u : Url} (hu : u.IsServed) {parts : List String}
    (hparts : ∀ t ∈ parts, IsSegment t.toList) :
    splitTail (pathChars parts ++ tailText u.query u.fragment)
      = (pathChars parts, u.query.map String.toList, u.fragment.map String.toList) := by
  refine splitTail_append (fun c hc => ?_) (fun q hq hmem => ?_) u.fragment
  · rcases mem_pathChars hc with rfl | ⟨t, ht, hc⟩
    · decide
    · have hwritten := (hparts t ht).written c hc
      constructor <;> rintro rfl <;> exact absurd hwritten (by decide)
  · exact absurd (hu.query q hq _ hmem) (by decide)

/-- The port of a served address is read again, or there is none. -/
theorem IsServed.portAndRest?_portText {u : Url} (hu : u.IsServed) {r : List Char}
    (hr : ∀ c ∈ r.head?, endsAuthority true c = true) :
    portAndRest? u.scheme (portText u.port) r = .ok (u.port, r) := by
  cases hp : u.port with
  | none => rfl
  | some p =>
    obtain ⟨hle, hdefault⟩ := hu.port p hp
    exact port?_append hle hdefault hr

/-- **Host, port, path, query and fragment are read again.** -/
theorem IsServed.withAuthority_toList {u : Url} (hu : u.IsServed) {h : Host} {s : String}
    {l : List String} (hhost : u.host = some h) (hw : h.IsWritten)
    (hpath : u.path = .segments (s :: l)) (hl : ∀ t ∈ s :: l, IsSegment t.toList) :
    withAuthority u.scheme ((u.userText.toList ++ (h.text.toList ++ portText u.port))
        ++ (pathChars (s :: l) ++ tailText u.query u.fragment)) = .ok u := by
  have hat : '@' ∉ h.text.toList ++ portText u.port := by
    intro hmem
    have hchar : Host.isHostChar '@' = true := by
      rcases List.mem_append.1 hmem with hmem | hmem
      · exact hw.isBracketed.isHostChar _ hmem
      · exact isHostChar_of_mem_portText hmem
    exact absurd hchar (by decide)
  have hrest : ∀ c ∈ (pathChars (s :: l) ++ tailText u.query u.fragment).head?,
      endsAuthority true c = true := by
    intro c hc
    rw [← Option.some.inj hc]
    rfl
  have hauthority : ((u.userText.toList ++ (h.text.toList ++ portText u.port))
      ++ (pathChars (s :: l) ++ tailText u.query u.fragment)).span (fun c => !endsAuthority true c)
      = (u.userText.toList ++ (h.text.toList ++ portText u.port),
        pathChars (s :: l) ++ tailText u.query u.fragment) := by
    refine span_append (fun c hc => ?_) fun c hc => ?_
    · rw [(hu.isInner hw c hc).notEnd]
      rfl
    · rw [hrest c hc]
      rfl
  obtain ⟨w, hcutUser, huser⟩ := exists_userAndHost_userText hu hat
  have hspan := spanHost_append hw.isBracketed (isPortText_portText u.port)
  rw [withAuthority_eq (isSpecial_of_isSome hu.scheme) hauthority hcutUser hspan,
    if_neg (by simp [hw.text_ne_empty]), if_neg hw.text_ne_empty, hw.ofText?_text, Except.bind,
    hu.portAndRest?_portText hrest, Except.map, huser, assemble, hu.splitTail_pathChars hl]
  have hparts : pathAfterAuthority true (pathChars (s :: l)) = s :: l := pathAfterAuthority_slash hl
  rw [hparts, ← hhost, ← hpath]
  exact congrArg Except.ok hu.withTail_eq

/-- **The text of an address is read as the address.** -/
theorem IsServed.parse_text {u : Url} (hu : u.IsServed) : parse u.text = .ok u := by
  obtain ⟨h, hhost, hw⟩ := hu.host
  obtain ⟨s, l, hpath, hl⟩ := hu.path
  have hlt := hu.lt_of_mem_text
  have hscheme : scheme? (solid (trimmed u.text)) = some (u.scheme, '/' :: '/' ::
      ((u.userText.toList ++ (h.text.toList ++ portText u.port))
        ++ (pathChars (s :: l) ++ tailText u.query u.fragment))) := by
    rw [trimmed_of_lt hlt, solid_of_lt hlt, toList_text hhost hpath, scheme?_append hu.scheme]
  have hfile : isFile u.scheme = false := by
    have hserved := hu.scheme
    rw [isFile, beq_eq_false_iff_ne]
    intro he
    rw [he] at hserved
    cases hserved
  -- the two slashes are the only ones before the authority
  obtain ⟨c, r, hauthority⟩ := List.exists_cons_of_ne_nil
    (show u.userText.toList ++ (h.text.toList ++ portText u.port) ≠ [] by simp [hw.text_ne_empty])
  have hc : isSlash true c = false := by
    have hinner := hu.isInner hw c (by rw [hauthority]; exact List.mem_cons_self)
    have hend := hinner.notEnd
    simp only [endsAuthority, Bool.or_eq_false_iff] at hend
    exact hend.1.1
  have hslash : isSlash true '/' = true := rfl
  have hread := hu.withAuthority_toList hhost hw hpath hl
  simp only [hauthority, List.cons_append] at hread hscheme
  have hspecial : isSpecial u.scheme = true := isSpecial_of_isSome hu.scheme
  simp only [parse, hscheme, hfile, hspecial, Bool.false_eq_true, if_false, if_true,
    List.dropWhile_cons_of_pos, hslash]
  rw [List.dropWhile_cons_of_neg (by simp [hc]), hread]

/-! ### What reading leaves -/

/-- What a port is, after it was read: a number of 16 bits that is not the default. -/
theorem port?_eq_ok {scheme : String} {cs rest : List Char} {port : Option Nat}
    (h : port? scheme cs = .ok (port, rest)) :
    ∀ p ∈ port, p ≤ 65535 ∧ defaultPort? scheme ≠ some p := by
  unfold port? at h
  generalize cs.span Char.isDigit = cut at h
  obtain ⟨digits, r⟩ := cut
  dsimp only at h
  generalize digits.foldl (fun n c => min (n * 10 + (c.toNat - 48)) 65536) 0 = value at h
  have hport : value ≤ 65535 ∧ port
      = if digits = [] ∨ defaultPort? scheme = some value then none else some value := by
    split at h
    · cases h
    · rename_i hvalue
      refine ⟨Nat.not_lt.1 hvalue, ?_⟩
      split at h
      · exact (Prod.mk.inj (Except.ok.inj h)).1.symm
      · split at h
        · exact (Prod.mk.inj (Except.ok.inj h)).1.symm
        · cases h
  intro p hp
  rw [hport.2] at hp
  split at hp
  · cases hp
  · rename_i hdefault
    obtain rfl := Option.some.inj hp
    exact ⟨hport.1, fun he => hdefault (Or.inr he)⟩

/-- **What a path after an authority is**: segments, and at least one. -/
theorem exists_pathAfterAuthority_eq (cs : List Char) :
    ∃ s l, pathAfterAuthority true cs = s :: l ∧ ∀ t ∈ s :: l, IsSegment t.toList := by
  cases cs with
  | nil =>
    refine ⟨"", [], rfl, fun t ht => ?_⟩
    rw [List.mem_singleton.1 ht]
    exact isSegment_nil
  | cons c r =>
    obtain ⟨hwritten, hne⟩ := Trail.isWritten_ofPath (if isSlash true c then r else c :: r)
    obtain ⟨s, l, hsegments⟩ := List.exists_cons_of_ne_nil hne
    refine ⟨String.ofList s, l.map String.ofList, ?_, fun t ht => ?_⟩
    · rw [pathAfterAuthority, Trail.texts, hsegments, List.map_cons]
    · rw [← List.map_cons, ← hsegments] at ht
      obtain ⟨r, hr, rfl⟩ := List.mem_map.1 ht
      rw [String.toList_ofList]
      exact hwritten r hr

/-- The codings of parts are written. -/
theorem isWritten_of_mem_ofList_encode {set : UInt8 → Bool} (hset : IsPlace set) {cs : List Char}
    {c : Char} (hc : c ∈ (String.ofList (encode set cs)).toList) : isWritten set c = true := by
  rw [String.toList_ofList] at hc
  exact hset.isWritten_of_mem_encode hc

theorem isWritten_of_mem_map_encode {set : UInt8 → Bool} (hset : IsPlace set)
    {part : Option (List Char)} {s : String}
    (hs : s ∈ part.map fun cs => String.ofList (encode set cs)) :
    ∀ c ∈ s.toList, isWritten set c = true := by
  obtain ⟨cs, -, rfl⟩ := Option.map_eq_some_iff.1 hs
  exact fun c hc => isWritten_of_mem_ofList_encode hset hc

/-- **An address that is put together from parts that were read** is as it is written. -/
theorem isServed_assemble {scheme : String} (hs : (defaultPort? scheme).isSome) (w : List Char)
    {h : Host} (hw : h.IsWritten) {port : Option Nat}
    (hport : ∀ p ∈ port, p ≤ 65535 ∧ defaultPort? scheme ≠ some p) (rest : List Char) :
    (assemble scheme (user w) h port rest).IsServed := by
  have hspecial : isSpecial scheme = true := isSpecial_of_isSome hs
  have hquery : (assemble scheme (user w) h port rest).query
      = (splitTail rest).2.1.map fun q => String.ofList (encode specialQuery q) := by
    simp only [assemble, withTail, hspecial, if_true]
  obtain ⟨s, l, hpath, hl⟩ := exists_pathAfterAuthority_eq (splitTail rest).1
  exact {
    scheme := hs
    username := fun c hc => isWritten_of_mem_ofList_encode isPlace_userinfo hc
    password := fun c hc => isWritten_of_mem_ofList_encode isPlace_userinfo hc
    host := ⟨h, rfl, hw⟩
    port := hport
    path := ⟨s, l, congrArg UrlPath.segments hpath, hl⟩
    query := fun q hq => isWritten_of_mem_map_encode isPlace_specialQuery (hquery ▸ hq)
    fragment := fun f hf => isWritten_of_mem_map_encode isPlace_fragment hf }

/-- **What is read after a scheme with a server** is an address as it is written. -/
theorem isServed_of_withAuthority {scheme : String} (hs : (defaultPort? scheme).isSome)
    {cs : List Char} {u : Url} (h : withAuthority scheme cs = .ok u) : u.IsServed := by
  have hspecial : isSpecial scheme = true := isSpecial_of_isSome hs
  obtain ⟨⟨authority, rest⟩, hcut⟩ : ∃ cut, cs.span (fun c => !endsAuthority true c) = cut :=
    ⟨_, rfl⟩
  obtain ⟨⟨w, r⟩, huser⟩ : ∃ cut, userAndHost authority = cut := ⟨_, rfl⟩
  obtain ⟨⟨host, portChars⟩, hspan⟩ : ∃ cut, spanHost false r = cut := ⟨_, rfl⟩
  rw [withAuthority_eq hspecial hcut huser hspan] at h
  split at h
  · cases h
  split at h
  · cases h
  cases hhost : Host.ofText? host with
  | error e =>
    rw [hhost] at h
    cases h
  | ok host =>
    cases hport : portAndRest? scheme portChars rest with
    | error e =>
      rw [hhost, hport] at h
      cases h
    | ok port =>
      rw [hhost, hport] at h
      obtain rfl := Except.ok.inj h
      refine isServed_assemble hs w (Host.isWritten_of_ofText? hhost) (fun p hp => ?_) _
      cases portChars with
      | nil =>
        obtain rfl := Except.ok.inj hport
        cases hp
      | cons c portChars => exact port?_eq_ok hport p hp

/-- An address has the scheme with which it is read. -/
theorem scheme_of_withAuthority {scheme : String} {cs : List Char} {u : Url}
    (h : withAuthority scheme cs = .ok u) : u.scheme = scheme := by
  unfold withAuthority at h
  simp only [bind, Except.bind, pure, Except.pure, throw, throwThe, MonadExceptOf.throw] at h
  repeat' split at h
  all_goals cases h
  all_goals rfl

theorem scheme_of_ofFile {cs : List Char} {u : Url} (h : ofFile cs = .ok u) :
    u.scheme = "file" := by
  unfold ofFile at h
  simp only [bind, Except.bind, pure, Except.pure] at h
  repeat' split at h
  all_goals cases h
  all_goals rfl

/-- **What is read is an address as it is written**, if its scheme has a server. -/
theorem isServed_of_parse {s : String} {u : Url} (h : parse s = .ok u)
    (hs : (defaultPort? u.scheme).isSome) : u.IsServed := by
  -- the other schemes are read in other ways
  have hother : ∀ scheme, Url.isSpecial scheme = false → u.scheme ≠ scheme := by
    rintro scheme hscheme rfl
    rw [Url.isSpecial, hs] at hscheme
    cases hscheme
  unfold parse at h
  dsimp only at h
  split at h
  · cases h
  rename_i scheme rest _
  split at h
  · rw [scheme_of_ofFile h] at hs
    cases hs
  rename_i hfile
  split at h
  · rename_i hspecial
    rw [Url.isSpecial, Bool.eq_false_iff.2 hfile, Bool.or_false] at hspecial
    exact isServed_of_withAuthority hspecial h
  · rename_i hspecial
    have hne := hother scheme (Bool.eq_false_iff.2 hspecial)
    split at h
    · exact absurd (scheme_of_withAuthority h) hne
    · obtain rfl := Except.ok.inj h
      exact absurd rfl hne

/-- What is read of a text with such a scheme has a server. -/
theorem isServed_of_parse_of_scheme? {s scheme : String} {rest : List Char} {u : Url}
    (h : parse s = .ok u) (hscheme : scheme? (solid (trimmed s)) = some (scheme, rest))
    (hs : (defaultPort? scheme).isSome) : u.IsServed := by
  have hfile : isFile scheme = false := by
    unfold defaultPort? at hs
    split at hs <;> first | rfl | cases hs
  have hspecial : isSpecial scheme = true := isSpecial_of_isSome hs
  simp only [parse, hscheme, hfile, hspecial, Bool.false_eq_true, if_false, if_true] at h
  exact isServed_of_withAuthority hs h

/-- **An address that was read is read again from its text**, if its scheme has a server. -/
theorem parse_text {s : String} {u : Url} (h : parse s = .ok u)
    (hs : (defaultPort? u.scheme).isSome) : parse u.text = .ok u :=
  (isServed_of_parse h hs).parse_text

end Url

end Courier
