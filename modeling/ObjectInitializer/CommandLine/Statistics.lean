/-
**The report of measures.**

The measures of a conversion as a JSON object, indented by two spaces per level.

Main definitions:

* `Conversion.report` — the report of a conversion.
-/

import ObjectInitializer.Conversion

set_option relaxedAutoImplicit false
set_option autoImplicit false

namespace ObjectInitializer

/-- A member of an object in a report: its name and the text of its value. -/
abbrev ReportMember := String × String

/-- The members of an object as lines behind an indent, separated by commas. -/
def reportLines (indent : String) (members : List ReportMember) : String :=
  String.intercalate ",\n" (members.map fun m => indent ++ "\"" ++ m.1 ++ "\": " ++ m.2)

theorem reportLines_append {front back : List ReportMember} (hfront : front ≠ [])
    (hback : back ≠ []) (indent : String) :
    reportLines indent (front ++ back) =
      reportLines indent front ++ ",\n" ++ reportLines indent back := by
  rw [reportLines, List.map_append, String.intercalate_append_of_ne_nil (by simpa using hfront)
    (by simpa using hback)]
  rfl

/-- An object in a report, of which the closing brace stands behind an indent. -/
def reportObject (indent : String) (members : List ReportMember) : String :=
  "\x7b\n" ++ reportLines (indent ++ "  ") members ++ "\n" ++ indent ++ "\x7d"

/-- The value of a member stands in one place of the object. -/
theorem reportObject_around {front back : List ReportMember} (hfront : front ≠ [])
    (hback : back ≠ []) (indent name value : String) :
    reportObject indent (front ++ (name, value) :: back) =
      "\x7b\n" ++ reportLines (indent ++ "  ") front ++ ",\n" ++ (indent ++ "  ") ++ "\"" ++ name ++
        "\": " ++ value ++
        (",\n" ++ reportLines (indent ++ "  ") back ++ "\n" ++ indent ++ "\x7d") := by
  have hline : reportLines (indent ++ "  ") [(name, value)] =
      indent ++ "  " ++ "\"" ++ name ++ "\": " ++ value := rfl
  rw [reportObject, reportLines_append hfront (List.cons_ne_nil _ _), ← List.singleton_append,
    reportLines_append (List.cons_ne_nil _ _) hback, hline]
  simp only [String.append_assoc]

/-- The counts of a rendering as members of a report. -/
def Tally.reportMembers (tally : Tally) : List ReportMember :=
  [("objects", toString tally.objects),
   ("arrays", toString tally.arrays),
   ("properties", toString tally.properties),
   ("skipped_meta_properties", toString tally.skippedMetaProperties),
   ("skipped_null_elements", toString tally.skippedNullElements),
   ("unsupported_values", toString tally.unsupportedValues),
   ("max_depth", toString tally.maxDepth)]

/-- The report of a conversion. -/
def Conversion.report (conversion : Conversion) : String :=
  reportObject ""
    [("input_size", toString conversion.inputSize),
     ("output_size", toString conversion.outputSize),
     ("processing_time_ms", toString conversion.milliseconds),
     ("render", reportObject "  " conversion.tally.reportMembers)]

end ObjectInitializer
