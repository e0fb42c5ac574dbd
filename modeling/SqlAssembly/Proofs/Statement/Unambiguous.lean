import SqlAssembly.Proofs.Statement.Outline

/-!
# Statements are unambiguous

A call whose names are clean has an outline (`Call.outline`), and the text of
the call is made of the words of its outline (`Call.joined_fragments_eq_words`).
So the text has no space too many, and two calls have the same text exactly if
they ask for the same (`Call.sql_unambiguous`).  They may differ in an offset
that is dropped, and in the way in which nothing is asked for.
-/

namespace SqlAssembly

/-! ## Windows -/

/-- The number of rows that a value is. -/
def Value.count? : Value → Option Nat
  | .int n => some n.toNat
  | _ => none

/-- How many rows a record asks for at most and, with that, how many to leave out first. -/
def Options.window (o : Options) : Option (Nat × Option Nat) :=
  o.limit.count?.map fun limit => (limit, o.offset.count?)

/-- Numbers of rows are told apart by what they count. -/
theorem Options.IsCount.eq_of_count? {v w : Value} (count : IsCount v) (other : IsCount w)
    (same : v.count? = w.count?) : v = w := by
  rcases count with rfl | ⟨n, rfl⟩ <;> rcases other with rfl | ⟨m, rfl⟩
  · rfl
  · cases same
  · cases same
  · have equal : n = m := Option.some.inj same
    rw [equal]

/-- Values that are texts are those texts. -/
theorem Value.map_str_filterMap_text? {vs : List Value} (texts : ∀ v ∈ vs, ∃ s, v = .str s) :
    vs = (vs.filterMap text?).map .str := by
  induction vs with
  | nil => rfl
  | cons v vs ih =>
    obtain ⟨s, rfl⟩ := texts v List.mem_cons_self
    rw [List.filterMap_cons_some (show text? (.str s) = some s from rfl), List.map_cons,
      ← ih fun other among => texts other (List.mem_cons_of_mem _ among)]

namespace Outline

open Clause

/-! ## Texts in words -/

theorem intercalate_intersperse :
    ∀ words : List String, " ".intercalate (words.intersperse "AND") = " AND ".intercalate words
  | [] => rfl
  | [word] => rfl
  | word :: next :: rest => by
      have and_word : " AND " = " " ++ ("AND" ++ " ") := by decide
      rw [List.intersperse_cons_cons, String.intercalate_cons_cons,
        String.intercalate_cons_of_ne_nil (by cases rest <;> simp), intercalate_intersperse,
        String.intercalate_cons_cons, and_word]
      simp only [String.append_assoc]

theorem conditionText_eq (columns : List String) :
    conditionText columns = " ".intercalate (conditionWords columns) := by
  cases columns with
  | nil => rfl
  | cons column columns =>
    have where_word : "WHERE " = "WHERE" ++ " " := by decide
    rw [conditionWords, String.intercalate_cons_of_ne_nil (by cases columns <;> simp),
      intercalate_intersperse, ← where_word]
    rfl

theorem tokenWords_eq (column token : String) (entries : List (String × String)) :
    ",".intercalate (((column, token) :: entries).map fun entry => entry.1 ++ " " ++ entry.2) =
      " ".intercalate (column :: tokenWords token entries) := by
  induction entries generalizing column token with
  | nil => simp [tokenWords]
  | cons entry entries ih =>
    obtain ⟨other, next⟩ := entry
    have later := ih other next
    rw [List.map_cons] at later
    rw [List.map_cons, List.map_cons, String.intercalate_cons_cons, later, tokenWords,
      String.intercalate_cons_cons, String.intercalate_cons_append]
    simp only [String.append_assoc]

theorem orderText_eq (o : Options) :
    o.orderText = " ".intercalate
      (orderWords (o.ordered.map fun entry => (entry.1.display, entry.2.display))) := by
  unfold Options.orderText
  cases o.ordered with
  | nil => rfl
  | cons entry entries =>
    obtain ⟨column, direction⟩ := entry
    have order_words : "ORDER BY " = "ORDER" ++ " " ++ ("BY" ++ " ") := by decide
    have columns := tokenWords_eq column.display direction.display
      (entries.map fun entry => (entry.1.display, entry.2.display))
    simp only [List.map_cons, List.map_map, Function.comp_def] at columns
    simp only [List.map_cons, orderWords, String.intercalate_cons_cons, ← columns]
    simp only [Clause.orderingOf, Clause.orderedColumn, order_words, String.append_assoc]
    rfl

theorem joined_repr {word : String} (not_empty : word ≠ "") (n : Nat) :
    joined [word, n.repr] = word ++ " " ++ n.repr := by
  rw [joined_cons_of_ne_empty not_empty, joined_singleton, if_neg (isWord_repr n).1]

theorem limiting_eq (n : Nat) : limiting (.int n) = joined ["LIMIT", n.repr] := by
  have limit_word : "LIMIT " = "LIMIT" ++ " " := by decide
  rw [joined_repr (by decide), ← limit_word]
  rfl

theorem skipping_eq (n : Nat) : skipping (.int n) = joined ["OFFSET", n.repr] := by
  have offset_word : "OFFSET " = "OFFSET" ++ " " := by decide
  rw [joined_repr (by decide), ← offset_word]
  rfl

theorem joined_windowFragments {o : Options} (limit_count : Options.IsCount o.limit)
    (offset_count : Options.IsCount o.offset) :
    joined (windowFragments o.limit o.offset) = joined (windowWords o.window) := by
  unfold Options.window
  rcases limit_count with limit | ⟨n, limit⟩
  · rw [limit]
    rfl
  · rcases offset_count with offset | ⟨m, offset⟩
    · rw [limit, offset]
      show joined [limiting (.int n)] = joined ["LIMIT", n.repr]
      rw [joined_singleton, limiting_eq]
    · rw [limit, offset]
      show joined [limiting (.int n), skipping (.int m)] = _
      rw [limiting_eq, skipping_eq]
      exact joined_map_joined [["LIMIT", n.repr], ["OFFSET", m.repr]]

end Outline

namespace Call

section

/-! ## Outlines of calls -/

variable [Machine]

/-- What the statement of a call says. -/
def outline (call : Call) : Outline where
  verb := call.verb
  table := call.table.display
  criteria := call.criteria.columns
  updates := call.updates.columns
  selected := call.record.selected.filterMap Value.text?
  ordered := call.record.ordered.map fun entry => (entry.1.display, entry.2.display)
  window := call.record.window

/-- A call whose names are clean texts, and whose directions have clean tokens. -/
structure Clean (call : Call) : Prop where
  table : ∃ s, call.table = .str s ∧ CleanName s
  criteria : ∀ column ∈ call.criteria.columns, CleanName column
  updates : ∀ column ∈ call.updates.columns, CleanName column
  selected : ∀ v ∈ call.record.selected, ∃ s, v = .str s ∧ CleanName s
  ordered : ∀ entry ∈ call.record.ordered,
    ∃ s t, entry = (.str s, .str t) ∧ CleanName s ∧ CleanToken t

/-- Two calls that ask for the same: an offset matters only where a limit is given. -/
structure Agrees (c d : Call) : Prop where
  verb : c.verb = d.verb
  table : c.table = d.table
  criteria : c.criteria.columns = d.criteria.columns
  updates : c.updates.columns = d.updates.columns
  selected : c.record.selected = d.record.selected
  ordered : c.record.ordered = d.record.ordered
  limit : c.record.limit = d.record.limit
  offset : c.record.limit ≠ .null → c.record.offset = d.record.offset

variable {c d call : Call}

/-- Only a find says which columns to return. -/
theorem selected_eq_nil (not_find : call.verb ≠ .find) : call.record.selected = [] := by
  have kind : call.record.kind = .orderLimit := by
    cases taken : call.record? with
    | none =>
      rw [record, taken]
      rfl
    | some o =>
      rw [record_of_record? taken]
      cases call with
      | count table criteria =>
        cases taken
        rfl
      | find table criteria options => exact absurd rfl not_find
      | update table criteria updates options => exact Options.kind_of_taken? taken
      | delete table criteria options => exact Options.kind_of_taken? taken
  have none_given : call.record.projections = .null := by
    rcases call.wellMade_record.projections with none_given | ⟨find, _⟩
    · exact none_given
    · rw [kind] at find
      cases find
  rw [Options.selected, none_given]

theorem clean_outline (clean : call.Clean) {desk after : Desk} {text : String}
    (built : call.sql desk = (.ok text, after)) : call.outline.Clean where
  table := by
    obtain ⟨s, is_text, clean_name⟩ := clean.table
    rw [outline, is_text, Value.display_str]
    exact clean_name
  criteria := clean.criteria
  updates := clean.updates
  selected := by
    intro column among
    obtain ⟨v, member, is_text⟩ := List.mem_filterMap.1 among
    obtain ⟨s, rfl, clean_name⟩ := clean.selected v member
    cases is_text
    exact clean_name
  ordered := by
    intro entry among
    obtain ⟨entry, member, rfl⟩ := List.mem_map.1 among
    obtain ⟨s, t, rfl, clean_name, clean_token⟩ := clean.ordered entry member
    rw [Value.display_str, Value.display_str]
    exact ⟨clean_name, clean_token⟩
  updating := updates_ne_nil_of_update built
  keeping := by
    intro not_update
    cases call with
    | update table criteria updates options => exact absurd rfl not_update
    | _ => rfl
  selecting := by
    intro not_find
    rw [outline, selected_eq_nil not_find]
    rfl

/-! ## The words of a text -/

/-- Columns to return that are texts are those texts. -/
theorem selected_eq_map (clean : call.Clean) :
    call.record.selected = call.outline.selected.map .str :=
  Value.map_str_filterMap_text? fun v among => by
    obtain ⟨s, is_text, _⟩ := clean.selected v among
    exact ⟨s, is_text⟩

/-- Columns to order by with directions that are texts are those texts. -/
theorem ordered_eq_map (clean : call.Clean) :
    call.record.ordered = call.outline.ordered.map fun entry => (.str entry.1, .str entry.2) := by
  rw [outline, List.map_map]
  refine (List.map_id _).symm.trans (List.map_congr_left fun entry among => ?_)
  obtain ⟨s, t, rfl, _⟩ := clean.ordered entry among
  rfl

theorem projectionText_eq (clean : call.Clean) :
    call.record.projectionText = Outline.projectionWord call.outline.selected := by
  unfold Options.projectionText Outline.projectionWord
  rw [show call.record.selected.isEmpty = call.outline.selected.isEmpty by
    rw [selected_eq_map clean, List.isEmpty_map]]
  rfl

theorem head_eq_joined (clean : call.Clean) (outline_clean : call.outline.Clean) :
    call.head = Clause.joined call.outline.headWords := by
  rw [Clause.joined_of_words (Outline.isWord_headWords outline_clean)]
  have from_words : " FROM " = " " ++ ("FROM" ++ " ") := by decide
  cases call with
  | count table criteria =>
    have words : "SELECT COUNT(*) AS counter FROM " = "SELECT" ++ (" " ++ ("COUNT(*)" ++ (" " ++
      ("AS" ++ (" " ++ ("counter" ++ (" " ++ ("FROM" ++ " ")))))))) := by decide
    show "SELECT COUNT(*) AS counter FROM " ++ table.display =
      " ".intercalate ["SELECT", "COUNT(*)", "AS", "counter", "FROM", table.display]
    simp only [words, String.intercalate_cons_cons, String.intercalate_singleton,
      String.append_assoc]
  | find table criteria options =>
    have words : "SELECT " = "SELECT" ++ " " := by decide
    simp only [head, Statement.findHead, projectionText_eq clean]
    show _ = " ".intercalate ["SELECT", _, "FROM", table.display]
    simp only [words, from_words, String.intercalate_cons_cons, String.intercalate_singleton,
      String.append_assoc]
  | update table criteria updates options =>
    have update_word : "UPDATE " = "UPDATE" ++ " " := by decide
    have set_word : " SET " = " " ++ ("SET" ++ " ") := by decide
    show "UPDATE " ++ table.display ++ " SET " ++ Clause.assignmentsText updates.columns =
      " ".intercalate ["UPDATE", table.display, "SET", Clause.assignmentsText updates.columns]
    simp only [update_word, set_word, String.intercalate_cons_cons, String.intercalate_singleton,
      String.append_assoc]
  | delete table criteria options =>
    have words : "DELETE FROM " = "DELETE" ++ (" " ++ ("FROM" ++ " ")) := by decide
    show "DELETE FROM " ++ table.display = " ".intercalate ["DELETE", "FROM", table.display]
    simp only [words, String.intercalate_cons_cons, String.intercalate_singleton,
      String.append_assoc]

/-- A text is made of the words of its outline. -/
theorem joined_fragments_eq_words (clean : call.Clean) (outline_clean : call.outline.Clean) :
    Clause.joined call.fragments = Clause.joined call.outline.words := by
  have head := head_eq_joined clean outline_clean
  have condition :
      call.condition = Clause.joined (Outline.conditionWords call.outline.criteria) := by
    rw [Clause.joined_of_words (Outline.isWord_conditionWords outline_clean.criteria)]
    exact Outline.conditionText_eq _
  have order : call.record.orderText =
      Clause.joined (Outline.orderWords call.outline.ordered) := by
    rw [Clause.joined_of_words (Outline.isWord_orderWords outline_clean.ordered)]
    exact Outline.orderText_eq _
  have window := Outline.joined_windowFragments call.wellMade_record.limit
    call.wellMade_record.offset
  calc Clause.joined call.fragments
      = Clause.joined ([call.head, call.condition, call.record.orderText] ++
          [Clause.joined
            (Clause.windowFragments call.record.limit call.record.offset)]) :=
        (Clause.joined_append_joined [call.head, call.condition, call.record.orderText] _).symm
    _ = Clause.joined ([call.outline.headWords, Outline.conditionWords call.outline.criteria,
          Outline.orderWords call.outline.ordered,
          Outline.windowWords call.outline.window].map Clause.joined) := by
        rw [head, condition, order, window]
        rfl
    _ = Clause.joined call.outline.words := by
        rw [Clause.joined_map_joined]
        simp [Outline.words]

/-! ## Texts and what they ask for -/

/-- Clean calls have the same outline exactly if they ask for the same. -/
theorem outline_eq_iff (c_clean : c.Clean) (d_clean : d.Clean) :
    c.outline = d.outline ↔ c.Agrees d := by
  constructor
  · intro same
    have window : c.record.window = d.record.window := congrArg Outline.window same
    have limits : c.record.limit.count? = d.record.limit.count? := by
      have firsts := congrArg (Option.map Prod.fst) window
      simpa [Options.window, Option.map_map, Function.comp_def] using firsts
    have limit := c.wellMade_record.limit.eq_of_count? d.wellMade_record.limit limits
    constructor
    · exact congrArg Outline.verb same
    · obtain ⟨s, c_text, _⟩ := c_clean.table
      obtain ⟨t, d_text, _⟩ := d_clean.table
      have displays : c.table.display = d.table.display := congrArg Outline.table same
      rw [c_text, d_text, Value.display_str, Value.display_str] at displays
      rw [c_text, d_text, displays]
    · exact congrArg Outline.criteria same
    · exact congrArg Outline.updates same
    · rw [selected_eq_map c_clean, selected_eq_map d_clean, same]
    · rw [ordered_eq_map c_clean, ordered_eq_map d_clean, same]
    · exact limit
    · intro given
      rcases c.wellMade_record.limit with none_given | ⟨n, is_count⟩
      · exact absurd none_given given
      · have offsets : c.record.offset.count? = d.record.offset.count? := by
          rw [Options.window, Options.window, ← limit, is_count] at window
          exact congrArg Prod.snd (Option.some.inj window)
        exact c.wellMade_record.offset.eq_of_count? d.wellMade_record.offset offsets
  · intro agree
    have window : c.record.window = d.record.window := by
      rw [Options.window, Options.window, ← agree.limit]
      rcases c.wellMade_record.limit with none_given | ⟨n, is_count⟩
      · rw [none_given]
        rfl
      · have given : c.record.limit ≠ .null := by
          rw [is_count]
          nofun
        rw [agree.offset given]
    rw [outline, outline, agree.verb, agree.table, agree.criteria, agree.updates, agree.selected,
      agree.ordered, window]

/-- The texts of clean calls are neat, and they are the same exactly if the calls ask for the
same. -/
theorem sql_unambiguous {c d : Call} (c_clean : c.Clean) (d_clean : d.Clean)
    {desk after other_desk other_after : Desk} {s t : String}
    (c_built : c.sql desk = (.ok s, after)) (d_built : d.sql other_desk = (.ok t, other_after)) :
    Clause.Neat s ∧ Clause.Neat t ∧ (s = t ↔ c.Agrees d) := by
  have c_outline := clean_outline c_clean c_built
  have d_outline := clean_outline d_clean d_built
  have c_words := Outline.isWord_words c_outline
  have d_words := Outline.isWord_words d_outline
  have c_text : s = Clause.joined c.outline.words :=
    (sql_eq_ok c_built).trans (joined_fragments_eq_words c_clean c_outline)
  have d_text : t = Clause.joined d.outline.words :=
    (sql_eq_ok d_built).trans (joined_fragments_eq_words d_clean d_outline)
  rw [c_text, d_text, ← outline_eq_iff c_clean d_clean]
  refine ⟨Clause.neat_joined_words c_words, Clause.neat_joined_words d_words, ?_⟩
  constructor
  · intro same
    exact Outline.words_injective c_outline d_outline (Clause.joined_injective c_words d_words same)
  · intro same
    rw [same]

end

/-- A find with columns named like words of the statement, and with an offset or none. -/
def search (offset : Value) : Call :=
  .find (.str "WHERE") ⟨none, [("AND", .null), ("LIMIT", .int 1)], by decide⟩
    ⟨Value.ofEntries [(.str "projections", Value.ofItems [.str "FROM", .str "x"]),
      (.str "sort", Value.ofEntries
        [(.str "OFFSET", .direction .asc), (.str "x", .direction .desc)]),
      (.str "limit", .int 0), (.str "offset", offset)], fun _ record => by cases record⟩

theorem clean_search (offset : Value)
    (selected : (search offset).record.selected = [.str "FROM", .str "x"])
    (ordered : (search offset).record.ordered =
      [(.str "OFFSET", .str "ASC"), (.str "x", .str "DESC")]) : (search offset).Clean where
  table := ⟨"WHERE", rfl, by decide⟩
  criteria := show ∀ column ∈ ["AND", "LIMIT"], CleanName column by decide
  updates := show ∀ column ∈ [], CleanName column by decide
  selected := by
    rw [selected]
    intro v among
    simp only [List.mem_cons, List.not_mem_nil, or_false] at among
    rcases among with rfl | rfl
    · exact ⟨"FROM", rfl, by decide⟩
    · exact ⟨"x", rfl, by decide⟩
  ordered := by
    rw [ordered]
    intro entry among
    simp only [List.mem_cons, List.not_mem_nil, or_false] at among
    rcases among with rfl | rfl
    · exact ⟨"OFFSET", "ASC", rfl, by decide, by decide⟩
    · exact ⟨"x", "DESC", rfl, by decide, by decide⟩

theorem sql_unambiguous_search :
    ∃ s t after other_after, (search (.int 0)).sql default = (.ok s, after) ∧
      (search .null).sql default = (.ok t, other_after) ∧
      s = "SELECT FROM,x FROM WHERE WHERE AND=? AND LIMIT=? ORDER BY OFFSET ASC,x DESC " ++
        "LIMIT 0 OFFSET 0" ∧
      (search (.int 0)).Clean ∧ (search .null).Clean ∧ Clause.Neat s ∧ Clause.Neat t ∧
      (s = t ↔ (search (.int 0)).Agrees (search .null)) := by
  have zero := clean_search (.int 0) rfl rfl
  have none_given := clean_search .null rfl rfl
  exact ⟨_, _, _, _, rfl, rfl, rfl, zero, none_given, sql_unambiguous zero none_given
    (show (search (.int 0)).sql default = (.ok _, _) from rfl)
    (show (search .null).sql default = (.ok _, _) from rfl)⟩

end Call

end SqlAssembly
