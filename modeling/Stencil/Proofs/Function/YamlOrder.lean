import Stencil.Proofs.Data.Path
import Stencil.Proofs.Function.Yaml

/-! The text of a document and the order of maps.

The text is that of the sorted document. It comes out the same in whatever order the entries of
maps stand, as long as no two keys of a map have one form; where two have, the later entry is
shown. -/
namespace Stencil.Function
open Text Data Data.Yaml

theorem document_of_toYaml {v : Value} {text : String} (h : toYaml v = .ok text) :
    ∃ t, document v = .ok t ∧ text = String.ofList (trimEnd isBlank (print t)) := by
  cases hdocument : document v with
  | error flaw =>
    rw [toYaml, hdocument] at h
    cases h
  | ok t =>
    rw [toYaml_of_document hdocument] at h
    exact ⟨t, rfl, (Except.ok.inj h).symm⟩

/-- Values that differ in the order of maps have texts or have none together, and the same one if
they have the same document. -/
theorem toYaml_rearranged {v w : Value} (h : v.Rearranged w) :
    Alike (fun s s' => v.KeysDiffer → s = s') (toYaml v) (toYaml w) := by
  have hraw : Alike _ (ofValue true v) (ofValue true w) := ofValue_rearranged h
  have hdocument : Alike (fun t u => v.KeysDiffer → t = u) (document v) (document w) :=
    hraw.map fun t u h => h
  rw [toYaml, toYaml]
  revert hdocument
  generalize document v = x
  generalize document w = y
  rintro (hsame | ⟨flaw, flaw'⟩)
  · exact .ok fun hdiffer => by rw [hsame hdiffer]
  · exact .error _ _

/-- **A value's text does not depend on the order of maps.** Of two values that are the same but
for the order of entries in maps, at whatever depth these stand, either both have a text or
neither has, and it is the same if in each map the keys have different forms. Where keys have one
form, the last of the entries is shown: a text is that of a document in which each map stands
where it stands in the value, its keys in the order of their bytes and under each key the document
of the last entry with it. -/
theorem toYaml_order (v : Value) :
    (∀ w, v.Rearranged w →
      ((∃ problem, toYaml v = .error problem) ↔ ∃ problem, toYaml w = .error problem) ∧
        (v.KeysDiffer → ∀ text, toYaml v = .ok text ↔ toYaml w = .ok text)) ∧
      ∀ text, toYaml v = .ok text →
        ∃ t, document v = .ok t ∧ text = String.ofList (trimEnd isBlank (print t)) ∧
          ∀ path u es, v.reach? path = some u → mapped? u = some es →
            ∃ fs, t.reach? path = some (.map fs) ∧
              (fs.Pairwise fun a b => Utf8.encodeText a.1 < Utf8.encodeText b.1) ∧
              ∀ key, Option.Rel (fun last x => document last = .ok x) (lastUnder? key es)
                (fs.lookup key) := by
  constructor
  · intro w h
    have halike := toYaml_rearranged h
    exact ⟨halike.fails_iff, fun hdiffer => halike.eq_ok_iff fun s s' hsame => hsame hdiffer⟩
  · intro text htext
    obtain ⟨t, ht, rfl⟩ := document_of_toYaml htext
    refine ⟨t, ht, rfl, fun path u es hpath hmapped => ?_⟩
    obtain ⟨fs, hfs, hascend, hlast⟩ := document_reach_mapped ht hpath hmapped
    exact ⟨fs, hfs, hascend.imp fun hlt => Utf8.encodeText_lt_iff.mpr hlt, hlast⟩

/-- Maps within a list come out in order, and of a number and its digits the later one. -/
theorem toYaml_order_nested :
    (toYaml (.list [.map [(.text "b" false, .map [(.text "y" false, .none), (.int 2, .none)]),
        (.int 1, .none)]]) = .ok "- '1': null\n  b:\n    '2': null\n    y: null" ∧
      toYaml (.list [.map [(.int 1, .none),
        (.text "b" false, .map [(.int 2, .none), (.text "y" false, .none)])]]) =
          .ok "- '1': null\n  b:\n    '2': null\n    y: null") ∧
      ∃ t fs, document (.list [.map [(.int 1, .int 7), (.text "1" false, .int 8)]]) = .ok t ∧
        t.reach? [.item 0] = some (.map fs) ∧ fs.lookup "1" = some (.int 8) := by
  constructor
  · have hinner : Value.Rearranged (.map [(.text "y" false, .none), (.int 2, .none)])
        (.map [(.int 2, .none), (.text "y" false, .none)]) :=
      .map (.cons (.refl _) (.refl _) (.cons (.refl _) (.refl _) .nil)) (.swap _ _ _)
    have houter := (toYaml_order _).1 _
      (.list (.cons (.map (.cons (.refl (.text "b" false)) hinner
        (.cons (.refl (.int 1)) (.refl .none) .nil)) (.swap _ _ _)) .nil))
    have htext : toYaml (.list [.map [(.text "b" false,
        .map [(.text "y" false, .none), (.int 2, .none)]), (.int 1, .none)]]) =
        .ok "- '1': null\n  b:\n    '2': null\n    y: null" := by
      rw [toYaml_of_document rfl]
      exact congrArg Except.ok (by decide +kernel)
    have hdiffer : Value.KeysDiffer (.list [.map [(.text "b" false,
        .map [(.text "y" false, .none), (.int 2, .none)]), (.int 1, .none)]]) := by
      simp only [Value.KeysDiffer, Value.ItemKeysDiffer, Value.EntryKeysDiffer, and_true]
      decide
    exact ⟨htext, (houter.2 hdiffer _).mp htext⟩
  · have ht : document (.list [.map [(.int 1, .int 7), (.text "1" false, .int 8)]]) =
        .ok (.list [.map [("1", .int 8)]]) := rfl
    obtain ⟨u, hu, -, hshows⟩ := (toYaml_order _).2 _ (toYaml_of_document ht)
    obtain ⟨fs, hfs, -, hlast⟩ := hshows [.item 0] _ _ rfl rfl
    obtain ⟨x, hx, hlater⟩ : ∃ x, fs.lookup "1" = some x ∧ document (.int 8) = .ok x :=
      of_rel_some (hlast "1")
    have hvalue : document (.int 8) = .ok (.int 8) := rfl
    rw [hvalue] at hlater
    cases hlater
    exact ⟨u, fs, hu, hfs, hx⟩

end Stencil.Function
