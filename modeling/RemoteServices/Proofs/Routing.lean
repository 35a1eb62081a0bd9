import Mathlib
import RemoteServices.Http.Location
import RemoteServices.Proofs.Numerals
import RemoteServices.Proofs.Pieces
import RemoteServices.Proofs.UrlText

/-!
# From the URL of an endpoint back to the endpoint

The URL of an endpoint carries the number of its service and the name of its interface, each as one
segment of the path.  A server takes the path apart again, and `Http.callOf?` is what it reads
there.  That is the same number and name if the name can be a segment at all, `Http.Routable`; no
other name is read as itself (`Http.Location.endpointUrl_routes`).
-/
namespace RemoteServices

namespace Url

theorem Segment.decode_of_afterDot {s rest : Segment} (h : s.afterDot = some rest) :
    decode s = String.utf8EncodeChar '.' ++ decode rest := by
  rw [Segment.afterDot.eq_def] at h
  split at h <;> cases h
  · exact decode_cons (by decide) rest
  · rfl
  · rfl

theorem Segment.isHere_encode {cs : List Char} :
    Segment.isHere (encode reservedInSegment cs) ↔ cs = ['.'] := by
  refine ⟨fun h => ?_, fun h => ?_⟩
  · have hdecode := decode_of_afterDot (beq_iff_eq.mp h)
    exact eq_of_decode_encode (by simp [reservedInSegment]) hdecode
  · subst h
    cbv

theorem Segment.isAbove_encode {cs : List Char} :
    Segment.isAbove (encode reservedInSegment cs) ↔ cs = ['.', '.'] := by
  refine ⟨fun h => ?_, fun h => ?_⟩
  · obtain ⟨rest, hfirst, hsecond⟩ := Option.bind_eq_some_iff.mp (beq_iff_eq.mp h)
    have hdecode := decode_of_afterDot hfirst
    rw [decode_of_afterDot hsecond] at hdecode
    exact eq_of_decode_encode (by simp [reservedInSegment]) hdecode
  · subst h
    cbv

theorem reservedInSegment_of_endsAuthority (c : Char) (h : endsAuthority c) :
    reservedInSegment c := by
  rcases endsAuthority_iff.mp h with rfl | rfl | rfl | rfl <;>
    simp [reservedInSegment, reservedInPath]

/-- What is left of a text that becomes a segment. -/
def kept (text : List Char) : List Char := text.filter (! isIgnored ·)

theorem push_eq (path : List Segment) (text : List Char) :
    push path text =
      if text = ['.'] ∨ text = ['.', '.'] then path
      else if kept text = ['.', '.'] then ([] :: climb path.reverse).reverse
      else if kept text = ['.'] then path ++ [[]]
      else path ++ [encode reservedInSegment (kept text)] := by
  have hkept : (text.filter fun c => ! "\t\n\x0d".contains c) = kept text := by
    refine List.filter_congr fun c _ => ?_
    simp [isIgnored, beq_eq_decide, Bool.and_assoc]
  -- One segment is followed, so only the equations for a last segment are left.
  rw [push, hkept, follow.eq_def]
  simp only [Segment.isAbove_encode, Segment.isHere_encode, List.reverse_cons, List.reverse_reverse]

/-- Nothing is left of a text that could be a segment. -/
def Vanishes (text : List Char) : Prop :=
  kept text = [] ∨ kept text = ['.'] ∨ kept text = ['.', '.']

instance (text : List Char) : Decidable (Vanishes text) := inferInstanceAs (Decidable (_ ∨ _))

theorem climb_subset (down : List Segment) : climb down ⊆ down := by
  rw [climb.eq_def]
  split
  · exact List.Subset.refl _
  · split
    · exact List.Subset.refl _
    · exact List.subset_cons_self _ _

theorem forall_mem_push {P : Segment → Prop} {path : List Segment} (hpath : ∀ s ∈ path, P s)
    (hempty : P []) (hencode : ∀ cs, P (encode reservedInSegment cs)) (text : List Char) :
    ∀ s ∈ push path text, P s := by
  rw [push_eq]
  split
  · exact hpath
  split
  · intro s hs
    rcases List.mem_cons.mp (List.mem_reverse.mp hs) with rfl | hs
    · exact hempty
    · exact hpath s (List.mem_reverse.mp (climb_subset _ hs))
  split
  · exact List.forall_mem_append.mpr ⟨hpath, List.forall_mem_singleton.mpr hempty⟩
  · exact List.forall_mem_append.mpr ⟨hpath, List.forall_mem_singleton.mpr (hencode _)⟩

theorem pieces_renderPath {p : List Char} {path : List Segment} (hp : '/' ∉ p)
    (hpath : ∀ s ∈ path, '/' ∉ s) :
    Text.pieces '/' (p ++ renderPath path) = p :: path := by
  induction path generalizing p with
  | nil => rw [renderPath, List.flatMap_nil, List.append_nil, Text.pieces_eq_singleton hp]
  | cons s path ih =>
    obtain ⟨hs, hpath⟩ := List.forall_mem_cons.mp hpath
    rw [renderPath, List.flatMap_cons, List.cons_append, Text.pieces_append_of_notMem hp,
      ← renderPath, ih hs hpath]

end Url

namespace Http

open Url

/-- The service and the interface that a path is read as, if it is the path of a call. -/
def callOf? (path : List Char) : Option (ServiceId × String) := do
  let (number, interface) ← captures? path
  let number ← textOf? (decode number)
  let interface ← textOf? (decode interface)
  match Text.readInt64 number.toList with
  | .ok n => some (n, interface)
  | .error _ => none

variable {Handler : Type} {find : ServiceId → String → Option Handler}

theorem decodeSegment_eq_ok {cs : List Char} {s : String} (h : Url.textOf? (Url.decode cs) = some s)
    (name : String) :
    decodeSegment name cs = .ok s := by
  rw [decodeSegment, h]

theorem dispatch_of_callOf? {q : Request} {n : ServiceId} {interface : String}
    (hmethod : q.method = "POST") (hcall : callOf? (pathOf q.target.toList) = some (n, interface))
    (hsize : q.body.size ≤ maxBodySize) :
    dispatch find q = (find n interface).elim (.error .notFound) .ok := by
  simp only [callOf?, Option.bind_eq_bind, Option.bind_eq_some_iff] at hcall
  obtain ⟨⟨number, name⟩, hcaptures, numberText, hnumber, nameText, hname, hcall⟩ := hcall
  split at hcall
  case h_2 => cases hcall
  rename_i hread
  cases hcall
  have hmethod' : ¬ q.method ≠ "POST" := not_not.mpr hmethod
  rw [dispatch, hcaptures]
  simp only [if_neg hmethod', decodeSegment_eq_ok hnumber, decodeSegment_eq_ok hname,
    if_neg (not_lt.mpr hsize), bind, Except.bind, hread]
  cases find n interface <;> rfl

theorem dispatch_of_captures?_eq_none {q : Request}
    (h : captures? (pathOf q.target.toList) = none) :
    dispatch find q = .error .notFound := by
  rw [dispatch, h]
  rfl

theorem pieces_path {path : List Segment} (hpath : ∀ s ∈ path, '/' ∉ s) :
    Text.pieces '/' (renderPath path) = [] :: path :=
  pieces_renderPath List.not_mem_nil hpath

theorem captures?_of_ne_nil {number interface : Segment}
    (hslash : ∀ s ∈ ["service".toList, number, interface], '/' ∉ s) (hne : interface ≠ []) :
    captures? (renderPath ["service".toList, number, interface]) = some (number, interface) := by
  rw [captures?, pieces_path hslash]
  exact if_pos ⟨rfl, hne⟩

/-- The names of interfaces that can be a segment of a path. -/
def Routable (interface : String) : Prop :=
  interface ≠ "" ∧ interface ≠ "." ∧ interface ≠ ".." ∧ ∀ c ∈ interface.toList,
    c ≠ '\t' ∧ c ≠ '\n' ∧ c ≠ '\x0d'

theorem routable_iff {interface : String} :
    Routable interface ↔ kept interface.toList = interface.toList ∧
    ¬ Vanishes interface.toList := by
  have hkept : kept interface.toList = interface.toList ↔ ∀ c ∈ interface.toList, c ≠ '\t' ∧
      c ≠ '\n' ∧ c ≠ '\x0d' := by
    simp [kept, List.filter_eq_self, isIgnored, and_assoc]
  have htext (text : String) : interface ≠ text ↔ interface.toList ≠ text.toList := by
    rw [ne_eq, ne_eq, String.toList_inj]
  rw [Routable, ← hkept, htext "", htext ".", htext "..", Vanishes, not_or, not_or]
  constructor
  · rintro ⟨hempty, hhere, habove, hkept⟩
    rw [hkept]
    exact ⟨rfl, hempty, hhere, habove⟩
  · rintro ⟨hkept, hempty, hhere, habove⟩
    rw [hkept] at hempty hhere habove
    exact ⟨hempty, hhere, habove, hkept⟩

/-- The path of an endpoint before the segment of the interface. -/
def servicePath (n : ServiceId) : List Segment :=
  ["service".toList, encode reservedInSegment (Text.int64Text n).toList]

theorem push_number (n : ServiceId) :
    push (push [] "service".toList) (Text.int64Text n).toList = servicePath n := by
  have hread : Text.readInt64 (Text.int64Text n).toList = .ok n :=
    Text.readInt64_eq_ok.mpr (Text.numeral_int64Text n)
  have hkept : kept (Text.int64Text n).toList = (Text.int64Text n).toList := by
    refine List.filter_eq_self.mpr fun c hc => ?_
    have hblank := (Text.numeral_int64Text n).not_isBlank c hc
    contrapose hblank
    rw [Bool.not_eq_true', Bool.not_eq_false, isIgnored, Bool.or_eq_true, Bool.or_eq_true,
      beq_iff_eq, beq_iff_eq, beq_iff_eq] at hblank
    rcases hblank with (rfl | rfl) | rfl <;> decide
  -- Dots are no number.
  have hhere : (Text.int64Text n).toList ≠ ['.'] := fun h => by
    rw [h] at hread
    cases hread
  have habove : (Text.int64Text n).toList ≠ ['.', '.'] := fun h => by
    rw [h] at hread
    cases hread
  have hservice : push [] "service".toList = ["service".toList] := by cbv
  rw [hservice, push_eq, hkept, if_neg (not_or.mpr ⟨hhere, habove⟩), if_neg habove, if_neg hhere]
  rfl

theorem not_endsAuthority_of_mem_push (n : ServiceId) (text : List Char) :
    ∀ s ∈ push (servicePath n) text, ∀ c ∈ s, ¬ endsAuthority c := by
  have hencode (cs : List Char) : ∀ c ∈ encode reservedInSegment cs,
      ¬ endsAuthority c := fun c hc =>
    not_endsAuthority_of_mem_encode reservedInSegment_of_endsAuthority hc
  refine forall_mem_push ?_ (List.forall_mem_nil _) hencode text
  exact List.forall_mem_cons.mpr ⟨by simp [endsAuthority_iff],
    List.forall_mem_singleton.mpr (hencode _)⟩

theorem not_mem_push (n : ServiceId) (text : List Char) :
    ∀ s ∈ push (servicePath n) text, '/' ∉ s := fun s hs hmem =>
  not_endsAuthority_of_mem_push n text s hs '/' hmem (by decide)

/-- A name that vanishes leaves a path with too few segments, or an empty one at its end. -/
theorem push_of_vanishes {text : List Char} (h : Vanishes text) (n : ServiceId) :
    push (servicePath n) text ∈ [servicePath n, ["service".toList, []], servicePath n ++ [[]]] := by
  have hclimb : climb (servicePath n).reverse = (servicePath n).reverse ∨
      climb (servicePath n).reverse = ["service".toList] := by
    have hreverse : (servicePath n).reverse = [encode reservedInSegment (Text.int64Text n).toList,
        "service".toList] := rfl
    rw [hreverse, climb]
    split
    · exact .inl rfl
    · exact .inr rfl
  rw [push_eq]
  split
  · simp
  split
  · rcases hclimb with h | h <;> rw [h] <;> simp
  split
  · simp
  · rename_i habove hhere
    obtain hempty : kept text = [] := h.resolve_right (not_or.mpr ⟨hhere, habove⟩)
    rw [hempty]
    simp [encode]

theorem push_of_not_vanishes {text : List Char} (h : ¬ Vanishes text) (path : List Segment) :
    push path text = path ++ [encode reservedInSegment (kept text)] := by
  have hdots : ¬ (text = ['.'] ∨ text = ['.', '.']) :=
    fun hdots => h (by rcases hdots with rfl | rfl <;> decide)
  obtain ⟨-, h⟩ := not_or.mp h
  obtain ⟨hhere, habove⟩ := not_or.mp h
  rw [push_eq, if_neg hdots, if_neg habove, if_neg hhere]

theorem captures?_of_vanishes {text : List Char} (h : Vanishes text) (n : ServiceId) :
    captures? (renderPath (push (servicePath n) text)) = none := by
  rw [captures?, pieces_path (not_mem_push n text)]
  have hpush := push_of_vanishes h n
  simp only [List.mem_cons, List.not_mem_nil, or_false] at hpush
  rcases hpush with h | h | h
  · rw [h, servicePath]
  · rw [h]
  · rw [h]
    exact if_neg fun h => h.2 rfl

theorem callOf?_of_not_vanishes {text : List Char} (h : ¬ Vanishes text) (n : ServiceId) :
    callOf? (renderPath (push (servicePath n) text)) = some (n, .ofList (kept text)) := by
  have hpercent : reservedInSegment '%' := by simp [reservedInSegment]
  have hread : Text.readInt64 (Text.int64Text n).toList = .ok n :=
    Text.readInt64_eq_ok.mpr (Text.numeral_int64Text n)
  have hne : encode reservedInSegment (kept text) ≠ [] := fun hempty =>
    h (.inl (eq_of_decode_encode hpercent (congrArg decode hempty)))
  have hslash := not_mem_push n text
  rw [push_of_not_vanishes h] at hslash ⊢
  rw [callOf?, servicePath, List.cons_append, List.cons_append, List.nil_append,
    captures?_of_ne_nil hslash hne]
  simp only [Option.bind_eq_bind, Option.bind_some, textOf?_decode_encode hpercent,
    String.ofList_toList, hread]

namespace Location

variable {l : Location} {u : Url} {n : ServiceId} {interface : String}

theorem delimited_of_base {base : Url} (h : l.base = .ok base) : base.Delimited := by
  rw [Location.base] at h
  cases hread : Url.read l.baseText with
  | ok base' =>
    rw [hread] at h
    cases h
    exact delimited_of_read hread
  | error fault =>
    rw [hread] at h
    cases h

theorem path_endpointUrl (h : l.endpointUrl n interface = .ok u) :
    u.path = push (servicePath n) interface.toList := by
  obtain ⟨base, -, h⟩ := bind_eq_ok.mp h
  cases h
  rw [← push_number]
  rfl

theorem pathOf_endpointUrl (h : l.endpointUrl n interface = .ok u) :
    pathOf u.render.toList = renderPath u.path := by
  obtain ⟨base, hbase, hu⟩ := bind_eq_ok.mp h
  have hdelimited : u.Delimited := by
    cases hu
    exact ⟨(delimited_of_base hbase).userinfo, (delimited_of_base hbase).host⟩
  refine pathOf_render hdelimited ?_
  rw [path_endpointUrl h]
  exact not_endsAuthority_of_mem_push n interface.toList

theorem callOf?_endpointUrl (h : l.endpointUrl n interface = .ok u)
    (hroutable : Routable interface) :
    callOf? (pathOf u.render.toList) = some (n, interface) := by
  obtain ⟨hkept, hvanishes⟩ := routable_iff.mp hroutable
  rw [pathOf_endpointUrl h, path_endpointUrl h, callOf?_of_not_vanishes hvanishes,
    hkept, String.ofList_toList]

/-- Whatever the interface, no other service is called. -/
theorem captures?_or_callOf?_endpointUrl (h : l.endpointUrl n interface = .ok u) :
    captures? (pathOf u.render.toList) = none ∨ ∃ other, callOf? (pathOf u.render.toList) = some
      (n, other) := by
  rw [pathOf_endpointUrl h, path_endpointUrl h]
  by_cases hvanishes : Vanishes interface.toList
  · exact .inl (captures?_of_vanishes hvanishes n)
  · exact .inr ⟨_, callOf?_of_not_vanishes hvanishes n⟩

/-- The URL of an endpoint leads to the endpoint again if the name of the interface can be a
segment, else to no endpoint of that name. -/
theorem endpointUrl_routes {base : Url} (h : l.base = .ok base)
    (n : ServiceId) (interface : String) :
    ∃ u, l.endpointUrl n interface = .ok u ∧ pathOf u.render.toList = renderPath u.path ∧
      (callOf? (renderPath u.path) = some (n, interface) ↔ Routable interface) ∧
      (¬ Routable interface →
        captures? (renderPath u.path) = none ∨
          ∃ other, callOf? (renderPath u.path) = some (n, other) ∧ other ≠ interface) := by
  obtain ⟨u, hu⟩ : ∃ u, l.endpointUrl n interface = .ok u := by
    rw [endpointUrl, h]
    exact ⟨_, rfl⟩
  have hother (hroutable : ¬ Routable interface) : captures? (renderPath u.path) = none ∨
      ∃ other, callOf? (renderPath u.path) = some (n, other) ∧ other ≠ interface := by
    rw [path_endpointUrl hu]
    by_cases hvanishes : Vanishes interface.toList
    · exact .inl (captures?_of_vanishes hvanishes n)
    · refine .inr ⟨_, callOf?_of_not_vanishes hvanishes n, fun hkept =>
        hroutable (routable_iff.mpr ⟨?_, hvanishes⟩)⟩
      rw [← String.ofList_inj, hkept, String.ofList_toList]
  refine ⟨u, hu, pathOf_endpointUrl hu, ⟨fun hcall => ?_, fun hroutable => ?_⟩, hother⟩
  · by_contra hroutable
    rcases hother hroutable with hnone | ⟨other, hsome, hne⟩
    · rw [callOf?, hnone] at hcall
      cases hcall
    · rw [hsome] at hcall
      exact hne (Prod.ext_iff.mp (Option.some.inj hcall)).2
  · rw [← pathOf_endpointUrl hu, callOf?_endpointUrl hu hroutable]

/-- A name with separators in it, and one of two dots. -/
theorem endpointUrl_routes_escaped :
    let l := ofSettings { advertiseHost := some "::1" }
    ∃ base, l.base = .ok base ∧
      (∃ u, l.endpointUrl (-3) "a/../%2F é" = .ok u ∧
        callOf? (renderPath u.path) = some (-3, "a/../%2F é")) ∧
      ∃ u, l.endpointUrl (-3) ".." = .ok u ∧ callOf? (renderPath u.path) ≠ some (-3, "..") := by
  intro l
  have hbase : l.base = .ok ⟨none, .address (.v6 ⟨[0, 0, 0, 0, 0, 0, 0, 1], rfl⟩), some 8888,
      [[]], none, none⟩ := by cbv
  obtain ⟨u, hu, -, hcall, -⟩ := endpointUrl_routes hbase (-3) "a/../%2F é"
  obtain ⟨v, hv, -, hdots, -⟩ := endpointUrl_routes hbase (-3) ".."
  exact ⟨_, hbase, ⟨u, hu, hcall.mpr ⟨by decide, by decide, by decide, by simp⟩⟩, v, hv, fun h =>
    (hdots.mp h).2.2.1 rfl⟩

end Location

end Http

end RemoteServices
