import ThreeAddress.Proofs.Linking

/-!
Sessions that are stored as images. The image of a session that was built from text links again, to a
session that differs from the first in its name only and so runs in the same way; and declarations
that are added to the image have the effect of declarations added to the text's own.
-/

namespace ThreeAddress.Session

variable {name source : String} {options : SessionOptions} {session : Session}

theorem link_rename (name other : String) (program : Program) (options : SessionOptions) :
    link other program options =
      (link name program options).map fun session => { session with name := other } := by
  simp only [link]
  cases declare program (if options.withPrelude then addPrelude (.ofProgram program)
    else .ofProgram program) options.params <;> rfl

theorem of_source_parts (built : ofSource name source options = .ok session) :
    Program.ofSource (externals options) source = .ok session.program ∧
      session.params = options.params := by
  obtain ⟨program, assembled, linked⟩ := of_source_eq_ok_iff.1 built
  have parts := (link_eq_ok_iff.1 linked).2
  rw [parts]
  exact ⟨assembled, rfl⟩

theorem check_program_of_source (built : ofSource name source options = .ok session) :
    Image.checkProgram session.program = .ok () := by
  have sound := Program.well_formed_of_source (of_source_parts built).1
  rw [Image.checkProgram, Program.check_eq_ok_iff.2 sound]

/-- Linking the image with further declarations is linking the text with the declarations of the
session and then these. -/
theorem of_image_to_image (built : ofSource name source options = .ok session)
    (other label : String) (extra : List Declaration) :
    ofImage other session.toImage { options with params := extra } =
      (ofSource label source { options with params := options.params ++ extra }).map
        fun session => { session with name := other } := by
  obtain ⟨assembled, params⟩ := of_source_parts built
  have image : ofImage other session.toImage { options with params := extra } =
      link other session.program { options with params := options.params ++ extra } := by
    simp only [ofImage, toImage, Image.ofProgram, check_program_of_source built, params]
  have text : ofSource label source { options with params := options.params ++ extra } =
      link label session.program { options with params := options.params ++ extra } := by
    simp only [externals] at assembled
    simp only [ofSource, externals, assembled]
  rw [image, text, ← link_rename]

/-- Nothing is lost when a session is stored: the image links under any name to a session with the
same program, declarations and table, which goes through the same states and has the same outcome;
and with further declarations it links exactly as the text does with them. -/
theorem image_keeps_session (built : ofSource name source options = .ok session) (other : String) :
    (∃ restored, ofImage other session.toImage { options with params := [] } = .ok restored ∧
      restored.program = session.program ∧ restored.params = session.params ∧
      restored.globals = session.globals ∧
      ∀ config,
        (∀ count, (restored.machine config).run (restored.setting config) count =
          (session.machine config).run (session.setting config) count) ∧
        ∀ fuel, restored.run? config fuel = session.run? config fuel) ∧
    ∀ label extra,
      ofImage other session.toImage { options with params := extra } =
        (ofSource label source { options with params := options.params ++ extra }).map
          fun linked => { linked with name := other } := by
  refine ⟨⟨{ session with name := other }, ?_, rfl, rfl, rfl, ?_⟩, of_image_to_image built other⟩
  · rw [of_image_to_image built other name [], List.append_nil, built]
    rfl
  · intro config
    exact ⟨fun count => rfl, fun fuel => rfl⟩

theorem image_keeps_shadowing_session :
    ofSource "text" shadowingSource shadowingOptions = .ok shadowingSession ∧
      ∃ restored, ofImage "image" shadowingSession.toImage { shadowingOptions with params := [] } =
          .ok restored ∧ restored.globals = shadowingSession.globals ∧
        restored.run? {} 20 = some (.ok (some (.integer 1))) := by
  obtain ⟨⟨restored, linked, -, -, globals, same⟩, -⟩ :=
    image_keeps_session shadowing_session_built "image"
  have outcome : shadowingSession.run? {} 20 = some (.ok (some (.integer 1))) := by decide +kernel
  exact ⟨shadowing_session_built, restored, linked, globals, ((same {}).2 20).trans outcome⟩

end ThreeAddress.Session
