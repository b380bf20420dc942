import SqlRender.Proofs.Render.Mute
import SqlRender.Proofs.Render.Spacing
import SqlRender.Proofs.Text.Tidy

/-!
# Tidy drafts

A draft is tidy if what it writes has no stray spaces, whatever was bound before. Parts without text
do no harm in a phrase, a list or a clause: no space is written for them. In a sequence, where
spaces are written as they are, they do: a space next to nothing but such parts is at one end of
what is written, and the draft is frayed.
-/

namespace SqlRender

open Text

/-- Placeholders that can be seen and have no stray spaces. -/
structure Placeholder.AreTidy (placeholder : Int → String) : Prop where
  visible : ∀ n : Nat, placeholder (n + 1) ≠ ""
  tidy : ∀ n : Nat, IsTidy (placeholder (n + 1))

/-- Segments without stray spaces, with any placeholders that have none. -/
def Segment.AreTidy (xs : List Segment) : Prop :=
  ∀ placeholder, Placeholder.AreTidy placeholder → ∀ bound, IsTidy (write placeholder bound xs)

namespace Segment.AreTidy

theorem nil : AreTidy [] :=
  fun _ _ _ => isTidy_empty

theorem append {xs ys : List Segment} (hx : AreTidy xs) (hy : AreTidy ys) :
    AreTidy (xs ++ ys) := by
  intro placeholder tidy bound
  rw [write_append]
  exact (hx placeholder tidy bound).append (hy placeholder tidy _)

theorem flatten {lists : List (List Segment)} (h : ∀ xs ∈ lists, AreTidy xs) :
    AreTidy lists.flatten := by
  induction lists with
  | nil => exact nil
  | cons xs lists ih =>
      rw [List.forall_mem_cons] at h
      exact h.1.append (ih h.2)

theorem write_ne {placeholder : Int → String} (tidy : Placeholder.AreTidy placeholder)
    {xs : List Segment} (h : areBlank xs = false) (bound : Nat) :
    write placeholder bound xs ≠ "" := by
  rw [Ne, write_eq_empty tidy.visible, h]
  exact Bool.false_ne_true

/-- Segments with text behind a text that may end with a space. -/
theorem after {word : String} {xs : List Segment} (hx : AreTidy xs) (hx_ne : areBlank xs = false)
    (sparse : IsSparse word) (start : word.toList.head? ≠ some ' ') :
    AreTidy (.text word :: xs) := by
  intro placeholder tidy bound
  exact (hx placeholder tidy bound).after (write_ne tidy hx_ne bound) sparse start

/-- Segments with text in front of a text that may start with a space. -/
theorem before {word : String} {xs : List Segment} (hx : AreTidy xs) (hx_ne : areBlank xs = false)
    (sparse : IsSparse word) (finish : word.toList.getLast? ≠ some ' ') :
    AreTidy (xs ++ [.text word]) := by
  intro placeholder tidy bound
  rw [write_append, write, write, String.append_empty]
  exact (hx placeholder tidy bound).before (write_ne tidy hx_ne bound) sparse finish

/-- Segments with text on both sides of a text that may have spaces at its ends. -/
theorem around {word : String} {xs ys : List Segment} (hx : AreTidy xs)
    (hx_ne : areBlank xs = false) (hy : AreTidy ys) (hy_ne : areBlank ys = false)
    (sparse : IsSparse word) : AreTidy (xs ++ .text word :: ys) := by
  intro placeholder tidy bound
  rw [write_append, write, ← String.append_assoc]
  exact (hx placeholder tidy bound).around (write_ne tidy hx_ne _) (hy placeholder tidy _)
    (write_ne tidy hy_ne _) sparse

/-- Items with a separator between those that have text. -/
theorem joined {separator : String} (sparse : IsSparse separator) {items : List (List Segment)}
    (h : ∀ item ∈ items, AreTidy item) : AreTidy (Segment.joined separator true items) := by
  induction items with
  | nil => exact nil
  | cons item items ih =>
      rw [List.forall_mem_cons] at h
      rw [Segment.joined]
      cases hitem : areBlank item with
      | true =>
          rw [if_pos rfl]
          exact ih h.2
      | false =>
          rw [if_neg Bool.false_ne_true, if_pos rfl, List.nil_append]
          cases hrest : items.all areBlank with
          | true =>
              rw [joined_eq_nil hrest, List.append_nil]
              exact h.1
          | false =>
              rw [joined_false hrest]
              have hrest_ne : areBlank (Segment.joined separator true items) = false := by
                rw [areBlank_joined, hrest]
              exact h.1.around hitem (ih h.2) hrest_ne sparse

end Segment.AreTidy

namespace Draft

/-- A draft that writes nothing with stray spaces. -/
def IsTidy (d : Draft) : Prop :=
  Segment.AreTidy d.segments

/-- Drafts each of which is tidy. -/
def AllTidy (ds : List Draft) : Prop :=
  ∀ d ∈ ds, d.IsTidy

theorem AllTidy.segments {ds : List Draft} (h : AllTidy ds) :
    ∀ xs ∈ segmentLists ds, Segment.AreTidy xs := by
  rw [segmentLists_eq]
  intro xs hxs
  obtain ⟨d, hd, rfl⟩ := List.mem_map.1 hxs
  exact h d hd

namespace IsTidy

variable {d e : Draft} {ds : List Draft} {word : String}

/-- What writes nothing has no stray spaces. -/
theorem of_isBlank (h : d.isBlank = true) : d.IsTidy := by
  intro placeholder tidy bound
  rw [(Segment.write_eq_empty tidy.visible bound d.segments).2 h]
  exact isTidy_empty

theorem text (h : Text.IsTidy word) : IsTidy (.text word) := by
  intro placeholder _ bound
  rw [Draft.segments, Segment.write, Segment.write, String.append_empty]
  exact h

theorem bind (value : Value) : IsTidy (.bind value) := by
  intro placeholder tidy bound
  rw [Draft.segments, Segment.write, Segment.write, String.append_empty]
  exact tidy.tidy bound

theorem stray (typeName : String) : IsTidy (.stray typeName) :=
  Segment.AreTidy.nil

theorem warn (warning : Warning) : IsTidy (.warn warning) :=
  Segment.AreTidy.nil

theorem fail (fault : Fault) : IsTidy (.fail fault) :=
  Segment.AreTidy.nil

theorem seq (h : AllTidy ds) : IsTidy (.seq ds) := by
  rw [IsTidy, Draft.segments]
  exact Segment.AreTidy.flatten h.segments

theorem empty : IsTidy .empty :=
  seq fun _ h => absurd h List.not_mem_nil

theorem join {separator : Separator} (sparse : IsSparse separator.chunk) (h : AllTidy ds) :
    IsTidy (.join separator ds) := by
  rw [IsTidy, Draft.segments]
  exact Segment.AreTidy.joined sparse h.segments

theorem phrase (h : AllTidy ds) : IsTidy (.phrase ds) :=
  join (by decide) h

/-- A text that may end with a space, before something that has text. -/
theorem after (h : IsTidy (.seq ds)) (h_ne : ds.all isBlank = false) (sparse : IsSparse word)
    (start : word.toList.head? ≠ some ' ') : IsTidy (.seq (.text word :: ds)) := by
  rw [← isBlank_seq] at h_ne
  exact Segment.AreTidy.after h h_ne sparse start

/-- A text that may start with a space, behind something that has text. -/
theorem before (h : d.IsTidy) (h_ne : d.isBlank = false) (sparse : IsSparse word)
    (finish : word.toList.getLast? ≠ some ' ') : IsTidy (.seq [d, .text word]) :=
  Segment.AreTidy.before h h_ne sparse finish

/-- A text that may have spaces at its ends, between two drafts that have text. -/
theorem around (hd : d.IsTidy) (hd_ne : d.isBlank = false) (he : e.IsTidy)
    (he_ne : e.isBlank = false) (sparse : IsSparse word) : IsTidy (.seq [d, .text word, e]) := by
  have hsegments : (Draft.seq [d, .text word, e]).segments =
      d.segments ++ .text word :: e.segments := by
    simp [Draft.segments, segmentLists]
  rw [IsTidy, hsegments]
  exact Segment.AreTidy.around hd hd_ne he he_ne sparse

theorem clause (hword : Text.IsTidy word) (hword_ne : word ≠ "") (h : d.IsTidy) :
    IsTidy (.clause word d) := by
  rw [IsTidy, Draft.segments]
  split
  · exact Segment.AreTidy.nil
  · rename_i hd
    have sparse : IsSparse (word ++ " ") := hword.sparse.append (by decide) (.inl hword.finish)
    have start : (word ++ " ").toList.head? ≠ some ' ' := by
      rw [Text.head?_append hword_ne]
      exact hword.start
    exact Segment.AreTidy.after h (eq_false_of_ne_true hd) sparse start

end IsTidy

namespace AllTidy

variable {d : Draft} {ds es : List Draft} {s : String}

theorem nil : AllTidy [] :=
  fun _ h => absurd h List.not_mem_nil

theorem cons (hd : d.IsTidy) (hds : AllTidy ds) : AllTidy (d :: ds) :=
  List.forall_mem_cons.2 ⟨hd, hds⟩

theorem append (hds : AllTidy ds) (hes : AllTidy es) : AllTidy (ds ++ es) :=
  List.forall_mem_append.2 ⟨hds, hes⟩

theorem single (hd : d.IsTidy) : AllTidy [d] :=
  cons hd nil

theorem word (hs : Text.IsTidy s) (hds : AllTidy ds) : AllTidy (.text s :: ds) :=
  cons (.text hs) hds

theorem ite {condition : Prop} [Decidable condition] (hds : AllTidy ds) (hes : AllTidy es) :
    AllTidy (if condition then ds else es) := by
  split
  · exact hds
  · exact hes

theorem wordIf (hs : Text.IsTidy s) (condition : Bool) :
    AllTidy (Draft.wordIf condition s) :=
  ite (single (.text hs)) nil

theorem listClause (hs : Text.IsTidy s) (hs_ne : s ≠ "") (hds : AllTidy ds) :
    AllTidy (Draft.listClause s ds) :=
  ite nil (single (.clause hs hs_ne (.join (by decide) hds)))

end AllTidy

theorem IsTidy.group {ds : List Draft} (hds : AllTidy ds) : IsTidy (.group ds) :=
  .seq (.word (by decide) (.cons (.join (by decide) hds) (.word (by decide) .nil)))

end Draft

/-! ## Spaces at the ends -/

/-- Segments with a space at one end, with any placeholders that can be seen. -/
def Segment.AreFrayed (xs : List Segment) : Prop :=
  ∀ placeholder : Int → String, (∀ n : Nat, placeholder (n + 1) ≠ "") →
    ∀ bound, IsFrayed (write placeholder bound xs)

namespace Segment.AreFrayed

variable {word : String} {xs ys : List Segment}

theorem start (blank : areBlank xs = true) (space : word.toList.head? = some ' ') :
    AreFrayed (xs ++ .text word :: ys) := by
  intro placeholder visible bound
  have word_ne : word ≠ "" := IsFrayed.ne (.inl space)
  rw [write_append, write, (write_eq_empty visible bound xs).2 blank, String.empty_append]
  exact .inl ((head?_append word_ne).trans space)

theorem finish (blank : areBlank ys = true) (space : word.toList.getLast? = some ' ') :
    AreFrayed (xs ++ .text word :: ys) := by
  intro placeholder visible bound
  have word_ne : word ≠ "" := IsFrayed.ne (.inr space)
  rw [write_append, write, (write_eq_empty visible _ ys).2 blank, String.append_empty]
  exact .inr ((getLast?_append word_ne).trans space)

end Segment.AreFrayed

namespace Draft

/-- A draft that writes something with a space at one end. -/
def IsFrayed (d : Draft) : Prop :=
  Segment.AreFrayed d.segments

namespace IsFrayed

variable {ds es : List Draft} {word : String}

theorem segments_word (ds es : List Draft) (word : String) :
    (Draft.seq (ds ++ .text word :: es)).segments =
      (Draft.seq ds).segments ++ .text word :: (Draft.seq es).segments := by
  simp [Draft.segments, segmentLists_eq]

/-- A space in front with nothing before it. -/
theorem start (blank : ds.all isBlank = true) (space : word.toList.head? = some ' ') :
    IsFrayed (.seq (ds ++ .text word :: es)) := by
  rw [← isBlank_seq] at blank
  rw [IsFrayed, segments_word]
  exact .start blank space

/-- A space at the end with nothing behind it. -/
theorem finish (blank : es.all isBlank = true) (space : word.toList.getLast? = some ' ') :
    IsFrayed (.seq (ds ++ .text word :: es)) := by
  rw [← isBlank_seq] at blank
  rw [IsFrayed, segments_word]
  exact .finish blank space

end IsFrayed

end Draft

end SqlRender
