import Mathlib.Data.List.DropRight
import StationPool.Proofs.AppConfig.Admission

/-!
# Endpoints of stations without their own

A station without an endpoint of its own is dialed below the base URL. The rule for the scheme is
about the base URL once it is trimmed, but the base URL is handed on as it stands, and loses the
slashes that it ends with. So the endpoint has the scheme that the rule asks for unless the base URL
begins with a blank, or is nothing but a scheme and slashes (`endpoint_schemed_iff`).
-/

namespace StationPool.AppConfig

variable {c : AppConfig} {base id : List Char}

/-- The endpoint of a station of the configuration. -/
def endpoint (c : AppConfig) (s : Station) : String :=
  (s.settings.withDefaults c.centralSystem.url c.connectionDefaults).url

/-- Nothing but a scheme and slashes. -/
def Bare (url : List Char) : Prop :=
  ∃ scheme ∈ schemes, ∃ n, url = scheme.toList ++ List.replicate n '/'

/-! ## Joining -/

/-- A station's URL is the base without its trailing slashes, a slash, and the id. -/
theorem toList_stationUrl (base id : String) :
    (stationUrl base id).toList = base.toList.rdropWhile (· == '/') ++ '/' :: id.toList := by
  simp [stationUrl, dropTrailingSlashes, List.rdropWhile]

/-- A station without a URL of its own is reached under the base URL and its trimmed id. -/
theorem endpoint_of_plain {s : Station} (plain : s.url = none) :
    c.endpoint s = stationUrl c.centralSystem.url (Text.trim s.id) := by
  simp [endpoint, Station.settings, StationSettings.withDefaults, plain]

/-- Slashes are dropped from the second part, and from the first where nothing else is left. -/
theorem rdropWhile_append (front rest : List Char) :
    (front ++ rest).rdropWhile (· == '/') =
      if (rest.rdropWhile (· == '/')).isEmpty then front.rdropWhile (· == '/')
      else front ++ rest.rdropWhile (· == '/') := by
  simp only [List.rdropWhile, List.reverse_append, List.dropWhile_append, List.isEmpty_reverse]
  split
  · rfl
  · rw [List.reverse_append, List.reverse_reverse]

/-- Slashes are taken from the end only as far as another character. -/
theorem rdropWhile_append_of_mem {front rest : List Char} {ch : Char} (mem : ch ∈ rest)
    (other : ch ≠ '/') :
    (front ++ rest).rdropWhile (· == '/') = front ++ rest.rdropWhile (· == '/') := by
  rw [rdropWhile_append, if_neg]
  rw [List.isEmpty_iff, List.rdropWhile_eq_nil_iff]
  intro all
  exact other (by simpa using all ch mem)

/-- More slashes at the end make no difference. -/
theorem rdropWhile_append_slashes (front : List Char) (n : Nat) :
    (front ++ List.replicate n '/').rdropWhile (· == '/') = front.rdropWhile (· == '/') := by
  rw [rdropWhile_append, if_pos]
  rw [List.isEmpty_iff, List.rdropWhile_eq_nil_iff]
  exact fun ch mem => by rw [List.eq_of_mem_replicate mem, beq_self_eq_true]

/-- A first character that is no slash stays. -/
theorem head_rdropWhile {ch : Char} (other : ch ≠ '/') (rest : List Char) :
    ((ch :: rest).rdropWhile (· == '/')).head? = some ch := by
  rw [← List.singleton_append, rdropWhile_append]
  split
  · rw [List.rdropWhile_singleton, if_neg (by simpa using other)]
    rfl
  · rfl

/-- A base that is a scheme and more keeps the scheme when something is joined to it. -/
theorem prefix_join_of_mem {scheme rest : List Char} {ch : Char} (mem : ch ∈ rest)
    (other : ch ≠ '/') :
    scheme <+: (scheme ++ rest).rdropWhile (· == '/') ++ '/' :: id := by
  rw [rdropWhile_append_of_mem mem other, List.append_assoc]
  exact List.prefix_append scheme _

/-! ## The scheme of an endpoint -/

/-- A bare base has its scheme again only where the id brings the second slash. -/
theorem schemed_bare_iff (bare : Bare base) :
    Schemed (base.rdropWhile (· == '/') ++ '/' :: id) ↔ id.head? = some '/' := by
  obtain ⟨scheme, known, n, rfl⟩ := bare
  rw [rdropWhile_append_slashes]
  have second : ∀ {rest : List Char}, ['/'] <+: rest ↔ rest.head? = some '/' := by
    intro rest
    rw [List.head?_eq_some_iff]
    exact ⟨fun ⟨more, eq⟩ => ⟨more, eq.symm⟩, fun ⟨more, eq⟩ => ⟨more, eq.symm⟩⟩
  simp only [schemes, List.mem_cons, List.not_mem_nil, or_false] at known
  rcases known with rfl | rfl
  · have stem : "ws://".toList.rdropWhile (· == '/') = ['w', 's', ':'] := by decide
    rw [stem]
    simp [Schemed, schemes, List.cons_prefix_cons, second]
  · have stem : "wss://".toList.rdropWhile (· == '/') = ['w', 's', 's', ':'] := by decide
    rw [stem]
    simp [Schemed, schemes, List.cons_prefix_cons, second]

/-- What begins with a blank has no scheme. -/
theorem not_schemed_of_blank {url : List Char} {ch : Char} (first : url.head? = some ch)
    (blank : Text.isBlank ch = true) : ¬ Schemed url := by
  rintro ⟨scheme, known, rest, rfl⟩
  simp only [schemes, List.mem_cons, List.not_mem_nil, or_false] at known
  rcases known with rfl | rfl <;>
  · cases first
    exact absurd blank (by decide)

/-- A base that keeps the rule and begins with no blank has the scheme itself. -/
theorem exists_scheme_prefix (schemed : Schemed (Text.trimChars base))
    (first : ∀ ch ∈ base.head?, Text.isBlank ch = false) :
    ∃ scheme ∈ schemes, scheme.toList <+: base := by
  obtain ⟨scheme, known, starts⟩ := schemed
  obtain ⟨front, back, split, blank, -⟩ := Text.exists_trimChars base
  have nothing : front = [] := by
    cases front with
    | nil => rfl
    | cons ch more =>
      have visible := first ch (by rw [split]; rfl)
      rw [blank ch List.mem_cons_self] at visible
      cases visible
  rw [nothing, List.nil_append] at split
  refine ⟨scheme, known, starts.trans ?_⟩
  exact ⟨back, split.symm⟩

/-- What is joined to a base that keeps the rule has the scheme where the base begins with no blank
and is more than a scheme and slashes, or the id brings the slash that is missing. -/
theorem schemed_join_iff (schemed : Schemed (Text.trimChars base)) :
    Schemed (base.rdropWhile (· == '/') ++ '/' :: id) ↔
      (∀ ch ∈ base.head?, Text.isBlank ch = false) ∧ (¬ Bare base ∨ id.head? = some '/') := by
  by_cases first : ∀ ch ∈ base.head?, Text.isBlank ch = false
  · rw [and_iff_right first]
    by_cases bare : Bare base
    · rw [schemed_bare_iff bare]
      exact (or_iff_right (not_not.mpr bare)).symm
    · refine iff_of_true ?_ (.inl bare)
      obtain ⟨scheme, known, rest, rfl⟩ := exists_scheme_prefix schemed first
      -- what follows the scheme is not slashes only
      obtain ⟨ch, mem, other⟩ : ∃ ch ∈ rest, ch ≠ '/' := by
        by_contra all
        push Not at all
        exact bare ⟨scheme, known, rest.length, by rw [← List.eq_replicate_of_mem all]⟩
      exact ⟨scheme, known, prefix_join_of_mem mem other⟩
  · refine iff_of_false ?_ fun keeps => first keeps.1
    push Not at first
    obtain ⟨ch, found, blank⟩ := first
    obtain ⟨rest, rfl⟩ := List.head?_eq_some_iff.mp found
    have blank : Text.isBlank ch = true := by simpa using blank
    -- a blank is no slash, so it stays in front
    have other : ch ≠ '/' := by
      rintro rfl
      exact absurd blank (by decide)
    refine not_schemed_of_blank ?_ blank
    rw [List.head?_append, head_rdropWhile other]
    rfl

/-- The endpoint of a station without its own, in an accepted configuration: it ends with the id
behind a slash, and it has the scheme that the rule asks for exactly where the base URL begins with
no blank and is more than a scheme and slashes, or the id brings the slash that is missing. -/
theorem endpoint_schemed_iff (accepted : c.validate = .ok ()) :
    ∀ s ∈ c.stations, s.url = none →
      ("/" ++ Text.trim s.id).toList <:+ (c.endpoint s).toList ∧
      (Schemed (c.endpoint s).toList ↔
        (∀ ch ∈ c.centralSystem.url.toList.head?, Text.isBlank ch = false) ∧
        (¬ Bare c.centralSystem.url.toList ∨ (Text.trim s.id).toList.head? = some '/')) := by
  intro s _ plain
  rw [endpoint_of_plain plain, toList_stationUrl]
  refine ⟨?_, schemed_join_iff (validate_ok_iff.mp accepted).scheme⟩
  rw [String.toList_append]
  exact List.suffix_append _ _

/-- The standard base URL is more than its scheme. -/
theorem endpoint_schemed_of_standard_base :
    let c : AppConfig := { stations := [{ id := " CP1" }] }
    c.validate = .ok () ∧ Schemed (c.endpoint { id := " CP1" }).toList := by
  intro c
  have accepted : c.validate = .ok () := by decide +kernel
  have ends := endpoint_schemed_iff accepted { id := " CP1" } List.mem_cons_self rfl
  have first : c.centralSystem.url.toList.head? = some 'w' := by decide +kernel
  refine ⟨accepted, ends.2.mpr ⟨?_, .inl ?_⟩⟩
  · rw [first]
    rintro ch ⟨⟩
    decide
  rintro ⟨scheme, known, n, eq⟩
  have letter : 'h' ∈ scheme.toList ++ List.replicate n '/' := by
    rw [← eq]
    decide +kernel
  simp only [schemes, List.mem_cons, List.not_mem_nil, or_false] at known
  rcases known with rfl | rfl <;> simp at letter

/-- A blank before the base URL, and a base URL that is a scheme only: both are accepted, and leave
the endpoint without a scheme. -/
theorem accepted_base_loses_scheme :
    let padded : AppConfig :=
      { centralSystem := { url := " ws://host/ocpp" }, stations := [{ id := "CP1" }] }
    let bare : AppConfig := { centralSystem := { url := "ws://" }, stations := [{ id := "CP1" }] }
    (padded.validate = .ok () ∧ padded.endpoint { id := "CP1" } = " ws://host/ocpp/CP1" ∧
      ¬ Schemed (padded.endpoint { id := "CP1" }).toList) ∧
    (bare.validate = .ok () ∧ bare.endpoint { id := "CP1" } = "ws:/CP1" ∧
      ¬ Schemed (bare.endpoint { id := "CP1" }).toList) := by
  intro padded bare
  have spoilt : padded.endpoint { id := "CP1" } = " ws://host/ocpp/CP1" := by decide +kernel
  have spoilt' : bare.endpoint { id := "CP1" } = "ws:/CP1" := by decide +kernel
  refine ⟨⟨by decide +kernel, spoilt, ?_⟩, by decide +kernel, spoilt', ?_⟩
  · rw [spoilt]
    simp [Schemed, schemes]
  · rw [spoilt']
    simp [Schemed, schemes]

end StationPool.AppConfig
