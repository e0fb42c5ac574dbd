import SqlAssembly.Proofs.Statement.Ordered
import SqlAssembly.Proofs.Text.Capitals

/-!
# What strictness lets through

Strictness compares a direction with the two keywords in upper case, but what is
written is the direction as it was given.  Upper case is that of all letters,
not of the seven-bit ones alone, and an `S` is the capital of two letters: of
the s and of the long s.

No other letter comes to one of a keyword.  So a direction is supported exactly
if it is a keyword, up to the case of seven-bit letters, once every long s is
written as an s (`Clause.isSupported_iff`); and it is a keyword itself exactly if
it has no long s (`Clause.isKeyword_iff`).  That much holds of the directions in
every text that is written with strictness (`Session.strict_tokens`).
-/

namespace SqlAssembly

section

/-! ## Keywords -/

namespace Clause

/-- A keyword is one of the two directions, up to the case of seven-bit letters. -/
def IsKeyword (token : String) : Prop := token.toUpper ∈ ["ASC", "DESC"]

/-- A direction is supported exactly if it is a keyword with an s for every long s. -/
theorem isSupported_iff {direction : Value} :
    IsSupported direction ↔ IsKeyword (Text.shortened (directionToken direction).display) := by
  have asc : Text.IsCapitalWord "ASC".toList := ⟨by decide, by decide⟩
  have desc : Text.IsCapitalWord "DESC".toList := ⟨by decide, by decide⟩
  simp only [IsSupported, IsKeyword, List.mem_cons, List.not_mem_nil, or_false,
    Text.upper_eq_iff asc, Text.upper_eq_iff desc]

/-- A keyword has seven-bit letters only. -/
theorem IsKeyword.toNat_lt {token : String} (keyword : IsKeyword token) :
    ∀ c ∈ token.toList, c.toNat < 0x80 := by
  have letters : ∀ word ∈ ["ASC", "DESC"], word.toList.all (·.toNat < 0x80) = true := by decide
  apply Text.toNat_lt_of_toUpper
  simpa using letters _ keyword

/-- What is a keyword with an s for every long s is one as it stands if it has no long s. -/
theorem isKeyword_iff {token : String} (short : IsKeyword (Text.shortened token)) :
    IsKeyword token ↔ 'ſ' ∉ token.toList := by
  constructor
  · intro keyword long_s
    exact absurd (keyword.toNat_lt _ long_s) (by decide)
  · intro absent
    rwa [Text.shortened_of_not_mem absent] at short

end Clause

/-! ## What is written -/

variable [Machine]

/-- A record from which the same is written as from an ordering has its text. -/
theorem Options.orderText_eq {o : Options} {cell : Cell} {entries : Entries}
    (some_entries : entries ≠ []) (written : ∀ entry ∈ entries, Clause.entryLimit? entry = none)
    (same : Clause.ordering o.sort = Clause.ordering (.mapping cell entries)) :
    o.orderText = Clause.orderingOf (Clause.allColumns entries) := by
  -- Without strictness every ordering that can be written is.
  have pass : ∀ entry ∈ entries, Clause.Passes (default : Desk).isStrict entry :=
    fun entry among => ⟨written entry among, nofun⟩
  have ordered : Clause.ordering o.sort default =
      (.ok (Clause.orderingOf (Clause.allColumns entries)), (default : Desk).asked) := by
    rw [same, Clause.ordering_mapping cell some_entries, Clause.orderedColumns_of_passes pass]
    rfl
  exact (Clause.ordering_eq_ok ordered).symm

namespace Writes

variable {entries : Entries} {op : Build String}

/-- The ordering that an operation writes is a fragment of its text. -/
theorem fragment_of_ok (writes : Writes entries op) (some_entries : entries ≠ [])
    (written : ∀ entry ∈ entries, Clause.entryLimit? entry = none) {desk after : Desk}
    {text : String} (built : op desk = (.ok text, after)) :
    ∃ front rest, text =
      Clause.joined (front ++ Clause.orderingOf (Clause.allColumns entries) :: rest) := by
  rcases writes.cases_of_ok built with ⟨cell, rfl⟩ | ⟨cell, limit, offset, rfl⟩ |
    ⟨row, g, rfl, tokens, gives, rfl⟩
  · let o := { Options.blank .orderLimit with sort := .mapping cell entries }
    have text_eq : text = o.orderText := Clause.ordering_eq_ok built
    have ordered := Options.orderText_eq (o := o) some_entries written rfl
    exact ⟨[], [], by rw [text_eq, ordered, List.nil_append, Clause.joined_singleton]⟩
  · let o := { Options.blank .orderLimit with
      sort := .mapping cell entries, limit := limit, offset := offset }
    have text_eq : text = Clause.joined (o.orderText :: Clause.windowFragments limit offset) :=
      Clause.suffix_eq_ok built
    have ordered := Options.orderText_eq (o := o) some_entries written rfl
    exact ⟨[], _, by rw [text_eq, ordered, List.nil_append]⟩
  · obtain ⟨o, head, condition, taken, _, _, rfl⟩ := g.build_eq_ok built
    have ordered := Options.orderText_eq some_entries written
      (Options.ordering_of_taken? taken gives tokens)
    exact ⟨[head, condition], _, by rw [ordered]; rfl⟩

end Writes

namespace Session

open Clause (IsKeyword)

/-- With strictness the directions that are written are keywords with an s for every long s.  Such a
direction is a keyword itself, of seven-bit letters, exactly if it has no long s. -/
theorem strict_tokens {entries : Entries} {op : Build String} (writes : Writes entries op)
    (some_entries : entries ≠ []) {session : Session} (on : session.desk.isStrict = true)
    {text : String} (built : (work op session).1 = .ok text) :
    (∃ front rest, text = Clause.joined (front ++
      ("ORDER BY " ++ ",".intercalate (entries.map fun entry =>
        entry.1.display ++ " " ++ (Clause.directionToken entry.2).display)) :: rest)) ∧
      ∀ entry ∈ entries, let token := (Clause.directionToken entry.2).display
        IsKeyword (Text.shortened token) ∧ (IsKeyword token ↔ 'ſ' ∉ token.toList) ∧
          ((∀ c ∈ token.toList, c.toNat < 0x80) ↔ 'ſ' ∉ token.toList) := by
  obtain ⟨_, at_desk⟩ := desk_of_work built
  have pass := (writes.sifts some_entries at_desk).passes built
  refine ⟨writes.fragment_of_ok some_entries (fun entry among => (pass entry among).1) at_desk,
    fun entry among => ?_⟩
  have short := Clause.isSupported_iff.1 ((pass entry among).2 on)
  have keyword_iff := Clause.isKeyword_iff short
  refine ⟨short, keyword_iff, fun small long_s => ?_, fun absent => ?_⟩
  · exact absurd (small _ long_s) (by decide)
  · exact (keyword_iff.2 absent).toNat_lt

end Session

end

namespace Session

open Clause (IsKeyword)

/-- A find with a keyword in mixed case and a direction. -/
theorem strict_tokens_mixedCase :
    let row : Row := ⟨none, [("age", .str "Desc"), ("name", .direction .asc)], by decide⟩
    let options := Value.ofEntries [(.str "sort", row.toValue)]
    let op := Statement.find (.str "people") (Value.ofEntries []) options
    Writes row.entries op ∧ row.entries ≠ [] ∧ checked.desk.isStrict = true ∧
      (work op checked).1 = .ok "SELECT * FROM people WHERE 1 ORDER BY age Desc,name ASC" ∧
      ∀ entry ∈ row.entries, IsKeyword (Clause.directionToken entry.2).display := by
  intro row options op
  have tokens : ∀ v ∈ row.values, v.IsToken := by
    intro v among
    rcases List.mem_pair.1 among with rfl | rfl
    · exact .text "Desc"
    · exact .direction .asc
  have writes : Writes row.entries op := .find tokens (.mapping rfl) _ _
  have some_entries : row.entries ≠ [] := List.cons_ne_nil _ _
  have built : (work op checked).1 =
      .ok "SELECT * FROM people WHERE 1 ORDER BY age Desc,name ASC" := by rfl
  refine ⟨writes, some_entries, rfl, built, fun entry among => ?_⟩
  have no_long_s : ∀ entry ∈ row.entries,
      'ſ' ∉ (Clause.directionToken entry.2).display.toList := by decide
  have here := (strict_tokens writes some_entries rfl built).2 entry among
  exact here.2.1.2 (no_long_s entry among)

/-- A direction with a long s is written with strictness, but is no keyword. -/
theorem strict_tokens_longS :
    let entries : Entries := [(.str "name", .str "aſc")]
    let op := Clause.ordering (.mapping none entries)
    Writes entries op ∧ checked.desk.isStrict = true ∧
      (work op checked).1 = .ok "ORDER BY name aſc" ∧
      ¬ IsKeyword "aſc" ∧ ¬ ∀ c ∈ "aſc".toList, c.toNat < 0x80 := by
  have far : ¬ ∀ c ∈ "aſc".toList, c.toNat < 0x80 := fun small =>
    absurd (small 'ſ' (by decide)) (by decide)
  exact ⟨.ordering, rfl, rfl, fun keyword => far keyword.toNat_lt, far⟩

end Session

end SqlAssembly
