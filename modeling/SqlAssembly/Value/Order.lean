import SqlAssembly.Sort.Adaptive
import SqlAssembly.Value.Sequence

/-!
# Order

Numbers are ordered by their places, texts by the code points of their
characters, octet strings by their octets, and sequences by their first items
that differ.  Values of other kinds, or of two kinds, have no order, and to
compare them is a fault.

Whether one value comes before another is also whether the other comes after
it.  Sorting asks the first question; a prepared statement that is compared with
a tuple asks the second one where it has to, so as to be the one that asks.  The
answers are the same, and a fault names the question.

Texts have one order, and a list of them is sorted by plain merging.  Any other
list is sorted by the adaptive merge sort.  Which comparison comes first matters
there: it decides which two kinds a fault names, and where undefined numbers end
up.
-/

namespace SqlAssembly

/-- The question about the items of two sequences of some kinds, when one was asked about the
sequences: a prepared statement asks it of a tuple, whichever stands on the left. -/
def OrderQuestion.inside (question : OrderQuestion) : Kind → Kind → OrderQuestion
  | .prepared, .tuple => .before
  | .tuple, .prepared => .after
  | _, _ => question

namespace Value

/-! ## Comparing two values -/

/-- The fault that two values have no order, which is asked of the first one, or of the second one
if the question is whether that comes after. -/
def unordered (question : OrderQuestion) (v w : Value) : Fault :=
  match question with
  | .before => .unordered .before v.kind w.kind
  | .after => .unordered .after w.kind v.kind

mutual

/-- Whether a value comes before another, asked so or as whether the other comes after it. -/
def precedes (question : OrderQuestion) : Value → Value → Except Fault Bool
  | .list cell items, w => match w with
    | .list _ others => precedesItems question items others
    | _ => .error (unordered question (.list cell items) w)
  | .tuple cell items, w => match w.tupleItems? with
    | some others => precedesItems (question.inside .tuple w.kind) items others
    | none => .error (unordered question (.tuple cell items) w)
  | .prepared sql cell params, w => match w.tupleItems? with
    | some (text :: rest) =>
      let asked := question.inside .prepared w.kind
      if text.text? == some sql then match rest with
        | [] => .ok false
        | other :: more => match other.tupleItems? with
          | some others =>
            if equalItems params others then .ok !more.isEmpty
            else precedesItems (asked.inside .tuple other.kind) params others
          | none => .error (unordered asked (.tuple cell params) other)
      else match text.text? with
        | some s => .ok (decide (sql < s))
        | none => .error (unordered asked (.str sql) text)
    | some [] => .ok false
    | none => .error (unordered question (.prepared sql cell params) w)
  | .bytes octets, w => match w with
    | .bytes others => .ok (decide (octets < others))
    | _ => .error (unordered question (.bytes octets) w)
  | v, w => match v.place?, w.place?, v.text?, w.text? with
    | some p, some q, _, _ => .ok (p.precedes q)
    | _, _, some s, some t => .ok (decide (s < t))
    | _, _, _, _ => .error (unordered question v w)

/-- Whether a sequence comes before another: by the first items that differ, else by length. -/
def precedesItems (question : OrderQuestion) : List Value → List Value → Except Fault Bool
  | [], others => .ok !others.isEmpty
  | _ :: _, [] => .ok false
  | v :: vs, w :: ws =>
    if v.same w then precedesItems question vs ws else v.precedes question w

end

/-! ## Sorting -/

/-- Texts in order, by merging. -/
def mergedTexts (vs : List Value) : List Value :=
  vs.mergeSort fun v w => decide ((v.text?.getD "") ≤ (w.text?.getD ""))

/-- Values in order. -/
def sorted (vs : List Value) : Except Fault (List Value) :=
  if vs.all (·.text?.isSome) then .ok (mergedTexts vs) else Sort.sorted (precedes .before) vs

/-! ## Sets -/

/-- The values without those equal to an earlier one. -/
def distinct (vs : List Value) : List Value :=
  vs.foldl (fun kept v => if v.isAmong kept then kept else kept ++ [v]) []

/-- The members of a set in the order in which they are gone through: numbers, others, nothing. -/
def setOrder (vs : List Value) : List Value :=
  let numbers := vs.filter fun v => v.place?.isSome
  let others := vs.filter fun v => v.place?.isNone && v.kind != .null
  numbers ++ others ++ vs.filter fun v => v.kind == .null

theorem sorted_texts (ss : List String) :
    sorted (ss.map Value.str) = .ok (mergedTexts (ss.map Value.str)) := by
  simp [sorted, text?]

/-- Sorting texts loses none and makes up none. -/
theorem mergedTexts_perm (vs : List Value) : (mergedTexts vs).Perm vs :=
  List.mergeSort_perm vs _

end Value

end SqlAssembly
