import StationPool.Handshake
import StationPool.Proofs.AppConfig.Endpoints

/-!
# What stations ask for

The endpoint of a station without its own is the base URL with the id joined to it as it stands. What
its handshake asks for is what follows the host there, up to a fragment. So the ids of two stations
that dial below one host tell their targets apart up to the first number sign, and not at all where
the base URL has one itself (`targets_agree_iff`).

`Parts` is what reading a text as a URI with a host comes to.
-/

namespace StationPool

namespace Uri

variable {text scheme name rest : List Char} {u : Uri}

/-! ## Schemes -/

/-- A character is kept in lower case, or is changed from a capital to a small letter. -/
theorem toLower_cases (c : Char) :
    c.toLower = c ∨ c.isUpper = true ∧ c.toLower.isLower = true := by
  unfold Char.toLower
  split
  case isTrue upper =>
    have least : 65 ≤ c.val.toNat := upper.1
    have most : c.val.toNat ≤ 90 := upper.2
    have small : 97 ≤ (c.val.toNat + 32) % 2 ^ 32 ∧ (c.val.toNat + 32) % 2 ^ 32 ≤ 122 := by omega
    refine .inr ⟨decide_eq_true upper, ?_⟩
    refine Bool.and_eq_true_iff.mpr ⟨decide_eq_true ?_, decide_eq_true ?_⟩
    · exact UInt32.le_iff_toNat_le.mpr small.1
    · exact UInt32.le_iff_toNat_le.mpr small.2
  case isFalse => exact .inl rfl

theorem isSchemeChar_of_toLower {c : Char} (lower : isSchemeChar c.toLower = true) :
    isSchemeChar c = true := by
  rcases toLower_cases c with same | ⟨upper, -⟩
  · rwa [same] at lower
  · have letter : c.isAlpha = true := Bool.or_eq_true_iff.mpr (.inl upper)
    have plain : c.isAlphanum = true := Bool.or_eq_true_iff.mpr (.inl letter)
    rw [isSchemeChar, plain]
    rfl

/-- A sign that is no letter is what it is in lower case. -/
theorem map_toLower_signs {signs cs : List Char} (lower : cs.map Char.toLower = signs)
    (none_ : signs.all (!·.isLower) = true) : cs = signs := by
  have same : ∀ c ∈ cs, c.toLower = id c := by
    intro c mem
    rcases toLower_cases c with same | ⟨-, small⟩
    · exact same
    · have sign := List.all_eq_true.mp none_ _ (lower ▸ List.mem_map_of_mem mem)
      rw [small] at sign
      cases sign
  rw [← lower, List.map_congr_left same, List.map_id]

/-- A scheme that is kept in lower case. -/
theorem scheme_of_lower {known : List Char} (lower : text.map Char.toLower = known ++ "://".toList)
    (letters : known.all isSchemeChar = true) :
    ∃ scheme, text = scheme ++ "://".toList ∧ ∀ ch ∈ scheme, isSchemeChar ch = true := by
  obtain ⟨scheme, signs, rfl, first, last⟩ := List.map_eq_append_iff.mp lower
  refine ⟨scheme, by rw [map_toLower_signs last (by decide)], fun ch mem => ?_⟩
  apply isSchemeChar_of_toLower
  exact List.all_eq_true.mp letters _ (first ▸ List.mem_map_of_mem mem)

/-- What is taken from a text while a condition holds, and the rest. -/
theorem takeWhile_split (p : Char → Bool) (text : List Char) :
    ∃ rest, text = text.takeWhile p ++ rest ∧ text.drop (text.takeWhile p).length = rest ∧
      ∀ ch ∈ rest.head?, p ch = false := by
  have split := List.takeWhile_append_dropWhile (p := p) (l := text)
  have dropped : (text.takeWhile p ++ text.dropWhile p).drop (text.takeWhile p).length =
      text.dropWhile p := List.drop_left
  rw [split] at dropped
  refine ⟨text.dropWhile p, split.symm, dropped, fun ch first => ?_⟩
  have stops := List.head?_dropWhile_not p text
  rw [Option.mem_def.mp first] at stops
  exact stops

/-- A scheme ends with a colon and two slashes. -/
theorem scheme_of_split {kept : String} (read : splitScheme? text = .ok (some (kept, rest))) :
    ∃ scheme, text = scheme ++ "://".toList ++ rest ∧ ∀ ch ∈ scheme, isSchemeChar ch = true := by
  have known {n : Nat} (letters : List Char)
      (lower : (text.take n).map Char.toLower = letters ++ "://".toList)
      (plain : letters.all isSchemeChar = true) : ∃ scheme,
        text = scheme ++ "://".toList ++ text.drop n ∧ ∀ ch ∈ scheme, isSchemeChar ch = true := by
    obtain ⟨scheme, taken, fine⟩ := scheme_of_lower lower plain
    refine ⟨scheme, ?_, fine⟩
    rw [← taken, List.take_append_drop]
  unfold splitScheme? at read
  dsimp only at read
  split at read
  case isTrue http =>
    cases read
    refine known "http".toList ?_ (by decide)
    rw [← List.map_take, List.take_take] at http
    exact http
  split at read
  case isTrue https =>
    cases read
    exact known "https".toList https (by decide)
  split at read
  · cases read
  obtain ⟨more, text_eq, dropped, -⟩ := takeWhile_split isSchemeChar text
  rw [dropped] at read
  split at read
  case h_1 more' =>
    split at read
    · cases read
    · cases read
      refine ⟨text.takeWhile isSchemeChar, ?_, fun ch mem => List.mem_takeWhile_imp mem⟩
      rw [List.append_assoc]
      exact text_eq
  case h_2 => cases read

/-! ## Readings -/

/-- What a text asks for behind its host, up to a fragment; a slash stands in front. -/
def requested (rest : List Char) : List Char :=
  let asked := rest.takeWhile (· != '#')
  if asked.head? = some '/' then asked else '/' :: asked

/-- The parts of a text that is read as a URI with a scheme and a host. -/
structure Parts (text : List Char) (u : Uri) (scheme name rest : List Char) : Prop where
  split : text = scheme ++ "://".toList ++ (name ++ rest)
  letters : ∀ ch ∈ scheme, isSchemeChar ch = true
  named : name ≠ []
  inside : ∀ ch ∈ name, endsAuthority ch = false
  behind : ∀ ch ∈ rest.head?, endsAuthority ch = true
  authority : u.authority = some (String.ofList name)
  target : u.target.toList = requested rest

/-- The target of a URI with a scheme. -/
theorem toList_target {kept : String} {authority query : Option String} {path : List Char} :
    (target ⟨some kept, authority, String.ofList path, query⟩).toList =
      (if path = [] then ['/'] else path) ++
        (query.elim [] fun q => '?' :: q.toList) := by
  cases path <;> cases query <;> simp [target, Uri.path]

/-- A path, or the slash that stands for none, and what follows it. -/
theorem requested_eq {front tail : List Char} (asked : rest.takeWhile (· != '#') = front ++ tail)
    (begins : front ≠ [] → front.head? = some '/') (other : tail.head? ≠ some '/') :
    requested rest = (if front = [] then ['/'] else front) ++ tail := by
  unfold requested
  dsimp only
  rw [asked]
  cases front with
  | nil => simp [other]
  | cons ch front =>
    obtain rfl : ch = '/' := Option.some.inj (begins nofun)
    simp

/-- The target of a request is what the text asks for behind its host, a slash in front. -/
theorem target_of_pathAndQuery {kept path : String} {authority query : Option String}
    (read : pathAndQuery rest = .ok (path, query))
    (behind : ∀ ch ∈ rest.head?, endsAuthority ch = true) :
    (target ⟨some kept, authority, path, query⟩).toList = requested rest := by
  obtain ⟨more, whole, dropped, stops⟩ := takeWhile_split (fun c => c != '?' && c != '#') rest
  generalize front_eq : rest.takeWhile (fun c => c != '?' && c != '#') = front at whole dropped
  have kind : ∀ ch ∈ front, ch ≠ '?' ∧ ch ≠ '#' := by
    intro ch mem
    have passed := List.mem_takeWhile_imp (front_eq ▸ mem)
    simpa using passed
  -- a path begins with the slash that ends the host
  have begins : front ≠ [] → front.head? = some '/' := by
    intro some_
    cases front with
    | nil => exact absurd rfl some_
    | cons ch front =>
      have ends : endsAuthority ch = true := behind ch (by rw [whole]; rfl)
      obtain ⟨question, sign⟩ := kind ch List.mem_cons_self
      have slash : ch = '/' := by simpa [endsAuthority, question, sign] using ends
      rw [slash]
      rfl
  have taken {tail : List Char} (cut : more.takeWhile (· != '#') = tail) :
      rest.takeWhile (· != '#') = front ++ tail := by
    rw [whole, List.takeWhile_append_of_pos, cut]
    intro ch mem
    simpa using (kind ch mem).2
  unfold pathAndQuery at read
  dsimp only at read
  rw [front_eq, dropped] at read
  split at read
  · cases read
  split at read
  case h_1 question =>
    split at read
    · cases read
      rw [toList_target, requested_eq (taken rfl) begins (by simp)]
      simp
    · cases read
  case h_2 none_ =>
    cases read
    have cut : more.takeWhile (· != '#') = [] := by
      cases more with
      | nil => rfl
      | cons ch more =>
        have other : ch ≠ '?' := fun same => none_ more (same ▸ rfl)
        have stop : ch = '#' := by simpa [other] using stops ch rfl
        rw [stop, List.takeWhile_cons_of_neg (by decide)]
    rw [toList_target, requested_eq (taken cut) begins nofun]
    rfl

/-- What succeeds in two steps succeeds in each. -/
theorem exists_of_bind_ok {ε α β : Type} {x : Except ε α} {f : α → Except ε β} {b : β}
    (done : x >>= f = .ok b) : ∃ a, x = .ok a ∧ f a = .ok b := by
  cases x with
  | error e => cases done
  | ok a => exact ⟨a, rfl, done⟩

/-- A host ends at the first character that may end one. -/
theorem splitAuthority_ok {cs : List Char} {authority : String} {rest : List Char}
    (read : splitAuthority cs = .ok (authority, rest)) : ∃ name, authority = String.ofList name ∧
      cs = name ++ rest ∧ (∀ ch ∈ name, endsAuthority ch = false) ∧
      ∀ ch ∈ rest.head?, endsAuthority ch = true := by
  obtain ⟨more, whole, dropped, stops⟩ := takeWhile_split (!endsAuthority ·) cs
  unfold splitAuthority at read
  split at read
  · cases read
  obtain ⟨scan, -, read⟩ := exists_of_bind_ok read
  split at read
  · cases read
    rw [dropped]
    refine ⟨_, rfl, whole, fun ch mem => ?_, fun ch first => ?_⟩
    · simpa using List.mem_takeWhile_imp mem
    · simpa using stops ch first
  · cases read

/-- A text with a slash is no bare host. -/
theorem ofBareAuthority_ne_ok {cs : List Char} (slash : '/' ∈ cs) (ifMore : UriError) :
    ofBareAuthority cs ifMore ≠ .ok u := by
  intro read
  unfold ofBareAuthority at read
  obtain ⟨⟨authority, rest⟩, host, whole⟩ := exists_of_bind_ok read
  obtain ⟨name, -, rfl, inside, -⟩ := splitAuthority_ok host
  dsimp only at whole
  split at whole
  case isTrue empty =>
    rw [List.isEmpty_iff.mp empty, List.append_nil] at slash
    exact absurd (inside '/' slash) (by decide)
  case isFalse => cases whole

/-- A text with a slash that names a host is a scheme, a host and more. -/
theorem parts_of_ofText {s : String} (read : ofText s = .ok u) (named : u.authority ≠ none)
    (slash : '/' ∈ s.toList) : ∃ scheme name rest, Parts s.toList u scheme name rest := by
  unfold ofText at read
  split at read
  · cases read
  split at read
  · cases read
  · cases read
    exact absurd rfl named
  · cases read
    exact absurd rfl named
  · obtain ⟨⟨path, query⟩, -, read⟩ := exists_of_bind_ok read
    cases read
    exact absurd rfl named
  case h_5 only =>
    exact absurd read (ofBareAuthority_ne_ok (only ▸ slash) _)
  case h_6 =>
    obtain ⟨found, split, more⟩ := exists_of_bind_ok read
    cases found with
    | none => exact absurd more (ofBareAuthority_ne_ok slash _)
    | some parts =>
      obtain ⟨kept, behind⟩ := parts
      obtain ⟨⟨authority, rest⟩, host, most⟩ := exists_of_bind_ok more
      obtain ⟨scheme, whole, letters⟩ := scheme_of_split split
      obtain ⟨name, rfl, rfl, inside, behind⟩ := splitAuthority_ok host
      dsimp only at most
      split at most
      · cases most
      case isFalse some_ =>
        obtain ⟨⟨path, query⟩, asks, all⟩ := exists_of_bind_ok most
        cases all
        have named : name ≠ [] := by
          rintro rfl
          exact some_ rfl
        exact ⟨scheme, name, rest, whole, letters, named, inside, behind, rfl,
          target_of_pathAndQuery asks behind⟩

/-- What follows the host of a base URL. -/
def behindHost (base : List Char) : List Char :=
  ((base.dropWhile (· != '/')).drop 2).dropWhile (!endsAuthority ·)

theorem isSchemeChar_ne {c d : Char} (letter : isSchemeChar c = true)
    (other : isSchemeChar d = false) : c ≠ d := by
  rintro rfl
  exact absurd (letter.symm.trans other) (by decide)

/-- What stands behind the host is what was put there. -/
theorem behindHost_eq {below : List Char} (letters : ∀ ch ∈ scheme, isSchemeChar ch = true)
    (inside : ∀ ch ∈ name, endsAuthority ch = false)
    (behind : ∀ ch ∈ below.head?, endsAuthority ch = true) :
    behindHost (scheme ++ "://".toList ++ (name ++ below)) = below := by
  have front : (scheme ++ "://".toList ++ (name ++ below)).dropWhile (· != '/') =
      '/' :: '/' :: (name ++ below) := by
    rw [List.append_assoc, List.dropWhile_append_of_pos]
    · simp
    · intro ch mem
      simpa using isSchemeChar_ne (letters ch mem) (by decide)
  rw [behindHost, front, List.drop_succ_cons, List.drop_succ_cons, List.drop_zero,
    List.dropWhile_append_of_pos fun ch mem => by simp [inside ch mem]]
  cases below with
  | nil => rfl
  | cons ch below => exact List.dropWhile_cons_of_neg (by simp [behind ch rfl])

/-- A host in front of a slash, or behind the slash that is missing. -/
theorem Parts.join {base id : List Char} (parts : Parts (base ++ '/' :: id) u scheme name rest)
    (stripped : ∀ front, base ≠ front ++ ['/']) :
    (∃ below, base = scheme ++ "://".toList ++ (name ++ below) ∧ rest = below ++ '/' :: id) ∨
      base = scheme ++ [':'] ∧ id = '/' :: (name ++ rest) := by
  have split : base ++ '/' :: id = (scheme ++ [':']) ++ '/' :: '/' :: (name ++ rest) := by
    rw [parts.split]
    simp
  rcases List.append_eq_append_iff.mp split with ⟨more, front, back⟩ | ⟨more, front, back⟩
  · cases more with
    | nil =>
      rw [List.append_nil] at front
      exact .inr ⟨front.symm, (List.cons.inj back).2⟩
    | cons ch more =>
      obtain rfl : '/' = ch := (List.cons.inj back).1
      have mem : '/' ∈ scheme ++ [':'] := front ▸ List.mem_append_right _ List.mem_cons_self
      rcases List.mem_append.mp mem with letter | colon
      · exact absurd rfl (isSchemeChar_ne (parts.letters _ letter) (by decide))
      · cases List.mem_singleton.mp colon
  · match more with
    | [] =>
      rw [List.append_nil] at front
      exact .inr ⟨front, (List.cons.inj back).2.symm⟩
    | [ch] =>
      obtain rfl : '/' = ch := (List.cons.inj back).1
      exact absurd front (stripped _)
    | ch :: ch' :: more =>
      obtain ⟨rfl, later⟩ := List.cons.inj back
      obtain ⟨rfl, hosts⟩ := List.cons.inj later
      have front : base = scheme ++ "://".toList ++ more := by
        rw [front]
        simp
      rcases List.append_eq_append_iff.mp hosts with ⟨below, own, last⟩ | ⟨below, own, last⟩
      · exact .inl ⟨below, own ▸ front, last⟩
      · cases below with
        | nil =>
          rw [List.append_nil] at own
          exact .inl ⟨[], by rw [List.append_nil, own, front], last.symm⟩
        | cons ch below =>
          obtain rfl : '/' = ch := (List.cons.inj last).1
          have mem : '/' ∈ name := own ▸ List.mem_append_right _ List.mem_cons_self
          exact absurd (parts.inside _ mem) (by decide)

/-- Two ids below one host ask for the same exactly where they agree up to a number sign, or where
one stands before them. -/
theorem requested_eq_iff (below a b : List Char) :
    requested (below ++ '/' :: a) = requested (below ++ '/' :: b) ↔
      '#' ∈ below ∨ a.takeWhile (· != '#') = b.takeWhile (· != '#') := by
  have passes {front : List Char} (none_ : '#' ∉ front) : ∀ ch ∈ front, (ch != '#') = true := by
    intro ch mem
    have other : ch ≠ '#' := fun same => none_ (same ▸ mem)
    simpa using other
  by_cases sign : '#' ∈ below
  · refine iff_of_true ?_ (.inl sign)
    obtain ⟨front, back, rfl, none_⟩ := List.eq_append_cons_of_mem sign
    have asked (id : List Char) :
        (front ++ '#' :: back ++ '/' :: id).takeWhile (· != '#') = front := by
      rw [List.append_assoc, List.takeWhile_append_of_pos (passes none_), List.cons_append,
        List.takeWhile_cons_of_neg (by decide), List.append_nil]
    rw [requested, requested, asked, asked]
  · have asked (id : List Char) : (below ++ '/' :: id).takeWhile (· != '#') =
        below ++ '/' :: id.takeWhile (· != '#') := by
      rw [List.takeWhile_append_of_pos (passes sign), List.takeWhile_cons_of_pos (by decide)]
    rw [or_iff_right sign, requested, requested, asked, asked]
    cases below with
    | nil => simp
    | cons ch below => by_cases slash : ch = '/' <;> simp [slash]

end Uri

/-! ## Endpoints -/

/-- Behind the scheme of a base URL stands more than slashes. -/
def Hosted (base : List Char) : Prop :=
  ∃ front rest, base = front ++ "://".toList ++ rest ∧ ∃ ch ∈ rest, ch ≠ '/'

/-- A request is made for a URI with a host. -/
theorem uri_of_ofSettings {s : ConnectionSettings} {h : Handshake}
    (made : Handshake.ofSettings s = .ok h) :
    Uri.ofText s.url = .ok h.uri ∧ h.uri.authority ≠ none := by
  have named {u : Uri} {host : String} (reached : Handshake.endpoint s.url = .ok (u, host)) :
      Uri.ofText s.url = .ok u ∧ u.authority ≠ none := by
    unfold Handshake.endpoint at reached
    split at reached
    · cases reached
    case h_2 uri read =>
      split at reached
      · cases reached
      case h_2 host' there =>
        split at reached
        · cases reached
        · cases reached
          refine ⟨read, fun none_ => ?_⟩
          rw [Uri.hostHeader?, none_] at there
          cases there
  unfold Handshake.ofSettings at made
  split at made
  · cases made
  case h_2 uri host reached =>
    have own : h.uri = uri := by
      split at made
      · cases made
        rfl
      · split at made
        · cases made
        · cases made
          rfl
    exact own ▸ named reached

/-- The parts of an endpoint that was joined and dialed. -/
theorem parts_of_joined {base id : String} {s : ConnectionSettings} {h : Handshake}
    (own : s.url = stationUrl base id) (made : Handshake.ofSettings s = .ok h) :
    ∃ scheme name rest, Uri.Parts (base.toList.rdropWhile (· == '/') ++ '/' :: id.toList) h.uri
      scheme name rest := by
  obtain ⟨read, named⟩ := uri_of_ofSettings made
  have text : s.url.toList = base.toList.rdropWhile (· == '/') ++ '/' :: id.toList :=
    own ▸ AppConfig.toList_stationUrl base id
  have slash : '/' ∈ s.url.toList := text ▸ List.mem_append_right _ List.mem_cons_self
  exact text ▸ Uri.parts_of_ofText read named slash

/-- The host is the one of the base URL, or the id brings it. -/
theorem hosted_or_brought {base id scheme name rest : List Char} {u : Uri}
    (parts : Uri.Parts (base.rdropWhile (· == '/') ++ '/' :: id) u scheme name rest) :
    (Hosted base ∧ ∃ below, below = Uri.behindHost (base.rdropWhile (· == '/')) ∧
      rest = below ++ '/' :: id ∧ ('#' ∈ below ↔ '#' ∈ base)) ∨
    ¬ Hosted base ∧ id = '/' :: (name ++ rest) := by
  have whole : base.rdropWhile (· == '/') ++ base.rtakeWhile (· == '/') = base :=
    List.rdropWhile_append_rtakeWhile
  have stripped : ∀ front, base.rdropWhile (· == '/') ≠ front ++ ['/'] := by
    intro front same
    have last := List.rdropWhile_last_not (· == '/') base (by rw [same]; simp)
    simp [same] at last
  have plain {d : Char} (sign : Uri.isSchemeChar d = false) : d ∉ scheme := fun mem =>
    absurd rfl (Uri.isSchemeChar_ne (parts.letters d mem) sign)
  rcases parts.join stripped with ⟨below, front, last⟩ | ⟨front, own⟩
  · have behind : ∀ ch ∈ below.head?, Uri.endsAuthority ch = true := by
      intro ch first
      refine parts.behind ch ?_
      rw [last, List.head?_append, Option.mem_def.mp first]
      rfl
    refine .inl ⟨?_, below, ?_, last, ?_⟩
    · obtain ⟨ch, more, rfl⟩ := List.exists_cons_of_ne_nil parts.named
      refine ⟨scheme, ch :: more ++ below ++ base.rtakeWhile (· == '/'), ?_, ch, ?_, ?_⟩
      · rw [← List.append_assoc, ← front, whole]
      · exact List.mem_cons_self
      · rintro rfl
        exact absurd (parts.inside '/' List.mem_cons_self) (by decide)
    · rw [front, Uri.behindHost_eq parts.letters parts.inside behind]
    · have signs : '#' ∉ base.rtakeWhile (· == '/') := fun mem =>
        absurd (List.mem_rtakeWhile_imp mem) (by decide)
      have inside : '#' ∉ name := fun mem => absurd (parts.inside '#' mem) (by decide)
      rw [← whole, front]
      simp [signs, inside, plain (d := '#') (by decide)]
  · refine .inr ⟨?_, own⟩
    rintro ⟨before, after, rfl, ch, mem, other⟩
    rw [AppConfig.rdropWhile_append_of_mem mem other] at front
    have slash : '/' ∈ scheme ++ [':'] := by
      rw [← front]
      simp
    rcases List.mem_append.mp slash with letter | colon
    · exact plain (by decide) letter
    · cases List.mem_singleton.mp colon

/-- Two stations dial below one base URL. If it has a host, they ask for the same exactly where it has
a number sign or their ids agree up to their first one; so ids without number signs keep apart below
a base URL without one. If it has none, each id brings a host behind a slash, and they ask for the
same exactly where the ids ask for the same behind their hosts. -/
theorem targets_agree_iff {base a b : String} {s s' : ConnectionSettings} {h h' : Handshake}
    (own : s.url = stationUrl base a) (own' : s'.url = stationUrl base b)
    (made : Handshake.ofSettings s = .ok h) (made' : Handshake.ofSettings s' = .ok h') :
    (Hosted base.toList → (h.uri.target = h'.uri.target ↔
      '#' ∈ base.toList ∨ a.toList.takeWhile (· != '#') = b.toList.takeWhile (· != '#'))) ∧
    (¬ Hosted base.toList → ∃ host host' rest rest',
      h.uri.authority = some (String.ofList host) ∧ a.toList = '/' :: (host ++ rest) ∧
      h'.uri.authority = some (String.ofList host') ∧ b.toList = '/' :: (host' ++ rest') ∧
      (h.uri.target = h'.uri.target ↔ Uri.requested rest = Uri.requested rest')) := by
  obtain ⟨scheme, host, rest, parts⟩ := parts_of_joined own made
  obtain ⟨scheme', host', rest', parts'⟩ := parts_of_joined own' made'
  have asked : h.uri.target = h'.uri.target ↔ Uri.requested rest = Uri.requested rest' := by
    rw [← String.toList_inj, parts.target, parts'.target]
  rw [asked]
  constructor
  · intro hosted
    rcases hosted_or_brought parts with ⟨-, below, rfl, rfl, signs⟩ | ⟨bare, -⟩
    · rcases hosted_or_brought parts' with ⟨-, below', rfl, rfl, -⟩ | ⟨bare, -⟩
      · rw [Uri.requested_eq_iff, signs]
      · exact absurd hosted bare
    · exact absurd hosted bare
  · intro bare
    rcases hosted_or_brought parts with ⟨hosted, -⟩ | ⟨-, brought⟩
    · exact absurd hosted bare
    · rcases hosted_or_brought parts' with ⟨hosted, -⟩ | ⟨-, brought'⟩
      · exact absurd hosted bare
      · exact ⟨host, host', rest, rest', parts.authority, brought, parts'.authority, brought',
          Iff.rfl⟩

/-- The settings of a station below a base URL. -/
def joinedSettings (base id : String) : ConnectionSettings := { url := stationUrl base id }

/-- Two stations under one base whose ids differ ask for different targets. -/
theorem targets_agree_iff_of_neighbours : ∃ h h',
    Handshake.ofSettings (joinedSettings "ws://host/ocpp" "CP1") = .ok h ∧
    Handshake.ofSettings (joinedSettings "ws://host/ocpp" "CP2") = .ok h' ∧
    h.uri.target ≠ h'.uri.target := by
  obtain ⟨h, made⟩ : ∃ h, Handshake.ofSettings (joinedSettings "ws://host/ocpp" "CP1") = .ok h :=
    ⟨_, rfl⟩
  obtain ⟨h', made'⟩ : ∃ h, Handshake.ofSettings (joinedSettings "ws://host/ocpp" "CP2") = .ok h :=
    ⟨_, rfl⟩
  have hosted : Hosted "ws://host/ocpp".toList :=
    ⟨"ws".toList, "host/ocpp".toList, rfl, 'h', by decide, by decide⟩
  refine ⟨h, h', made, made', fun same => ?_⟩
  rcases ((targets_agree_iff rfl rfl made made').1 hosted).mp same with sign | agree
  · exact absurd sign (by decide)
  · exact absurd agree (by decide)

/-- Two ids that differ behind a number sign only: their stations ask for the same. -/
theorem fragments_share_target : ¬ ∀ (base a b : String) (s s' : ConnectionSettings)
    (h h' : Handshake), a ≠ b → s.url = stationUrl base a → s'.url = stationUrl base b →
    Handshake.ofSettings s = .ok h → Handshake.ofSettings s' = .ok h' →
    h.uri.target ≠ h'.uri.target := by
  intro differ
  have same : (Handshake.ofSettings (joinedSettings "ws://host/ocpp" "CP1")).map (·.uri.target) =
      (Handshake.ofSettings (joinedSettings "ws://host/ocpp" "CP1#2")).map (·.uri.target) := rfl
  obtain ⟨h, made⟩ : ∃ h, Handshake.ofSettings (joinedSettings "ws://host/ocpp" "CP1") = .ok h :=
    ⟨_, rfl⟩
  obtain ⟨h', made'⟩ : ∃ h, Handshake.ofSettings (joinedSettings "ws://host/ocpp" "CP1#2") = .ok h :=
    ⟨_, rfl⟩
  rw [made, made'] at same
  exact differ _ _ _ _ _ h h' (by decide) rfl rfl made made' (Except.ok.inj same)

end StationPool
