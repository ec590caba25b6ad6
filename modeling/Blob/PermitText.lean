import Blob.RootBoundary

/-!
# The canonical permit text determines the permit

A permit's text is newline-joined lines: thirteen header lines with a
hexadecimal, token or decimal value each, one line for each argument,
three timestamp lines and an empty line. No value contains a newline, so
the lines are recovered from the text; the argument count in the header
says where the timestamps start.

`canonicalLines_prefix` is the one decoding step. It gives that the text
is injective (`canonicalText_injective`) and, stronger, that no permit's
text is a proper prefix of another's (`canonicalText_prefix`): a file
that was only partly written is no other permit.
-/

namespace Blob

open Text

theorem actionToken_injective : Function.Injective actionToken := by
  intro a b h
  cases a <;> cases b <;> first | rfl | exact absurd h (by decide)

theorem effectToken_injective : Function.Injective effectToken := by
  intro a b h
  cases a <;> cases b <;> first | rfl | exact absurd h (by decide)

theorem authorityToken_injective : Function.Injective authorityToken := by
  intro a b h
  cases a <;> cases b <;> first | rfl | exact absurd h (by decide)

/-- A key in front of a value does not change what it determines. -/
theorem keyed_injective {α : Type} {f : α → String} (key : String)
    (hf : Function.Injective f) : Function.Injective fun a => key ++ f a := by
  intro a b h
  exact hf ((String.append_right_inj _).mp h)

namespace TrustedActivationPermit

/-! ## The lines -/

theorem length_argLines (args : List String) : (argLines args).length = args.length := by
  simp [argLines]

theorem argLines_injective {args args' : List String} (h : argLines args = argLines args') :
    args = args' := by
  have hlen : args.length = args'.length := by
    rw [← length_argLines args, h, length_argLines]
  refine List.ext_getElem hlen ?_
  intro i hi hi'
  have hline : (argLines args)[i]? = (argLines args')[i]? := by rw [h]
  simp only [argLines, List.getElem?_map, List.getElem?_zipIdx, List.getElem?_eq_getElem hi,
    List.getElem?_eq_getElem hi', Option.map_some, Option.some.injEq, argLine] at hline
  exact hexText_injective ((String.append_right_inj _).mp hline)

theorem oneLine_argLine (arg : String) (index : Nat) : OneLine (argLine arg index) := by
  have hkey : OneLine "arg-" := by decide
  have heq : OneLine "=" := by decide
  exact ((hkey.append (oneLine_natText index)).append heq).append (oneLine_hexText arg)

/-- No line of a permit contains a newline. -/
theorem oneLine_canonicalLines (self : TrustedActivationPermit) :
    ∀ line ∈ self.canonicalLines, OneLine line := by
  have hhex : ∀ {key : String}, OneLine key → ∀ s, OneLine (key ++ hexText s) :=
    fun hkey s => hkey.append (oneLine_hexText s)
  have hnat : ∀ {key : String}, OneLine key → ∀ n : Nat, OneLine (key ++ toString n) :=
    fun hkey n => hkey.append (oneLine_natText n)
  have haction : OneLine (actionToken self.action) := by
    cases self.action <;> decide
  have heffect : OneLine (effectToken self.effectClass) := by
    cases self.effectClass <;> decide
  have hauthority : OneLine (authorityToken self.authority) := by
    cases self.authority <;> decide
  intro line hline
  simp only [canonicalLines, List.mem_append, List.mem_cons, List.not_mem_nil, or_false] at hline
  rcases hline with (hheader | hargs) | htimes
  · rcases hheader with rfl | rfl | rfl | rfl | rfl | rfl | rfl | rfl | rfl | rfl | rfl
      | rfl | rfl
    · decide
    · exact hhex (by decide) _
    · exact hhex (by decide) _
    · exact hhex (by decide) _
    · exact hhex (by decide) _
    · exact hhex (by decide) _
    · exact hhex (by decide) _
    · exact OneLine.append (by decide) haction
    · exact OneLine.append (by decide) heffect
    · exact OneLine.append (by decide) hauthority
    · exact hhex (by decide) _
    · exact hhex (by decide) _
    · exact hnat (by decide) _
  · obtain ⟨⟨arg, index⟩, -, rfl⟩ := List.mem_map.mp hargs
    exact oneLine_argLine arg index
  · rcases htimes with rfl | rfl | rfl <;> exact hnat (by decide) _

/-- The lines of a permit, with anything after them, determine the permit. -/
theorem canonicalLines_prefix {p q : TrustedActivationPermit} {rest rest' : List String}
    (h : p.canonicalLines ++ rest = q.canonicalLines ++ rest') : p = q := by
  simp only [canonicalLines, List.cons_append, List.nil_append, List.append_assoc,
    List.cons.injEq, true_and] at h
  obtain ⟨hauthorization, hnode, hoperation, hcandidate, hspec, hmaterialization, haction,
    heffect, hauthority, hclosure, hprogram, hcount, h⟩ := h
  have hhex : ∀ {key s t : String}, key ++ hexText s = key ++ hexText t → s = t :=
    fun h => keyed_injective _ hexText_injective h
  have hnat : ∀ {key : String} {m n : Nat}, key ++ toString m = key ++ toString n → m = n :=
    fun h => keyed_injective _ natText_injective h
  -- the argument count fixes where the argument lines end
  have hlen : (argLines p.args).length = (argLines q.args).length := by
    rw [length_argLines, length_argLines]
    exact hnat hcount
  obtain ⟨hargs, htimes⟩ := List.append_inj h hlen
  simp only [List.cons.injEq] at htimes
  obtain ⟨hobserved, hprepared, hexpires, -⟩ := htimes
  obtain ⟨⟨authorization⟩, ⟨node⟩, ⟨operation⟩, ⟨candidate⟩, ⟨spec⟩, ⟨materialization⟩,
    action, effect, authority, closure, program, args, observed, prepared, expires⟩ := p
  obtain ⟨⟨authorization'⟩, ⟨node'⟩, ⟨operation'⟩, ⟨candidate'⟩, ⟨spec'⟩,
    ⟨materialization'⟩, action', effect', authority', closure', program', args', observed',
    prepared', expires'⟩ := q
  obtain rfl := hhex hauthorization
  obtain rfl := hhex hnode
  obtain rfl := hhex hoperation
  obtain rfl := hhex hcandidate
  obtain rfl := hhex hspec
  obtain rfl := hhex hmaterialization
  obtain rfl := keyed_injective _ actionToken_injective haction
  obtain rfl := keyed_injective _ effectToken_injective heffect
  obtain rfl := keyed_injective _ authorityToken_injective hauthority
  obtain rfl := hhex hclosure
  obtain rfl := hhex hprogram
  obtain rfl := argLines_injective hargs
  obtain rfl := hnat hobserved
  obtain rfl := hnat hprepared
  obtain rfl := hnat hexpires
  rfl

theorem canonicalLines_ne_nil (self : TrustedActivationPermit) :
    self.canonicalLines ≠ [] := by
  simp [canonicalLines]

theorem oneLine_terminatedLines (self : TrustedActivationPermit) :
    ∀ line ∈ self.canonicalLines ++ [""], OneLine line := by
  intro line hline
  rcases List.mem_append.mp hline with hline | hline
  · exact self.oneLine_canonicalLines line hline
  · obtain rfl := List.mem_singleton.mp hline
    decide

/-! ## The text -/

/-- A permit whose text starts another permit's text is that permit. -/
theorem canonicalText_prefix {p q : TrustedActivationPermit}
    (h : p.canonicalText.toList <+: q.canonicalText.toList) : p = q := by
  obtain ⟨rest, hrest⟩ := lines_prefix_of_prefix p.canonicalLines_ne_nil
    (by simp) p.oneLine_canonicalLines q.oneLine_terminatedLines h
  exact canonicalLines_prefix hrest

theorem eq_of_canonicalText_eq {p q : TrustedActivationPermit}
    (h : p.canonicalText = q.canonicalText) : p = q := by
  refine canonicalText_prefix ⟨[], ?_⟩
  rw [List.append_nil, h]

/-- Permits with the same canonical text, byte for byte, are equal in all
fifteen fields. -/
theorem canonicalText_injective :
    Function.Injective fun permit : TrustedActivationPermit =>
      utf8Bytes permit.canonicalText := by
  intro p q h
  have htext : p.canonicalText = q.canonicalText := utf8Bytes_injective h
  have hlines := joinLines_injective (by simp) (by simp) p.oneLine_terminatedLines
    q.oneLine_terminatedLines htext
  exact canonicalLines_prefix hlines

end TrustedActivationPermit

end Blob
