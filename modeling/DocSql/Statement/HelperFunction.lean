import DocSql.Sql.Builder

/-!
The SQL functions that compiled statements call. Each is created or replaced,
so installing them can be repeated.
-/
namespace DocSql

structure HelperFunction where
  name : String
  parameters : String
  returns : String
  body : List String
deriving Inhabited

namespace HelperFunction

def statement (f : HelperFunction) : Statement where
  sql := String.intercalate "\n" (
    ["CREATE OR REPLACE FUNCTION " ++ f.name ++ "(" ++ f.parameters ++ ")",
      "RETURNS " ++ f.returns, "LANGUAGE sql", "IMMUTABLE", "AS $function$"] ++
    f.body ++ ["$function$;"])

def lists : String := "\"array\" jsonb, \"values\" jsonb"

def arrayAdd : HelperFunction where
  name := "array_add"
  parameters := lists
  returns := "jsonb"
  body := ["  SELECT COALESCE(\"array\", '[]'::jsonb) || COALESCE(\"values\", '[]'::jsonb);"]

def arrayAddUnique : HelperFunction where
  name := "array_add_unique"
  parameters := lists
  returns := "jsonb"
  body := [
    "  SELECT COALESCE(jsonb_agg(elt ORDER BY ord), '[]'::jsonb)",
    "  FROM (",
    "    SELECT DISTINCT ON (elt) elt, ord",
    "    FROM (",
    "      SELECT elt, ord FROM jsonb_array_elements(COALESCE(\"array\", '[]'::jsonb)) " ++
      "WITH ORDINALITY AS a(elt, ord)",
    "      UNION ALL",
    "      SELECT elt, ord + jsonb_array_length(COALESCE(\"array\", '[]'::jsonb))",
    "      FROM jsonb_array_elements(COALESCE(\"values\", '[]'::jsonb)) " ++
      "WITH ORDINALITY AS v(elt, ord)",
    "    ) AS combined",
    "    ORDER BY elt, ord",
    "  ) AS unique_elements;"]

def arrayRemove : HelperFunction where
  name := "array_remove"
  parameters := lists
  returns := "jsonb"
  body := [
    "  SELECT COALESCE(jsonb_agg(elt ORDER BY ord), '[]'::jsonb)",
    "  FROM jsonb_array_elements(COALESCE(\"array\", '[]'::jsonb)) " ++
      "WITH ORDINALITY AS a(elt, ord)",
    "  WHERE elt NOT IN (SELECT jsonb_array_elements(COALESCE(\"values\", '[]'::jsonb)));"]

def arrayContains : HelperFunction where
  name := "array_contains"
  parameters := lists
  returns := "boolean"
  body := [
    "  SELECT EXISTS (",
    "    SELECT 1 FROM jsonb_array_elements(COALESCE(\"array\", '[]'::jsonb)) AS a(elt)",
    "    WHERE elt IN (SELECT jsonb_array_elements(COALESCE(\"values\", '[]'::jsonb)))",
    "  );"]

def arrayContainsAll : HelperFunction where
  name := "array_contains_all"
  parameters := lists
  returns := "boolean"
  body := [
    "  SELECT jsonb_array_length(COALESCE(\"values\", '[]'::jsonb)) > 0 AND NOT EXISTS (",
    "    SELECT 1 FROM jsonb_array_elements(\"values\") AS v(elt)",
    "    WHERE elt NOT IN (SELECT jsonb_array_elements(COALESCE(\"array\", '[]'::jsonb)))",
    "  );"]

def arrayContainsAllRegex : HelperFunction where
  name := "array_contains_all_regex"
  parameters := lists
  returns := "boolean"
  body := [
    "  SELECT jsonb_array_length(COALESCE(\"values\", '[]'::jsonb)) > 0 AND NOT EXISTS (",
    "    SELECT 1 FROM jsonb_array_elements_text(\"values\") AS v(pattern)",
    "    WHERE NOT EXISTS (",
    "      SELECT 1 FROM jsonb_array_elements_text(COALESCE(\"array\", '[]'::jsonb)) AS a(elt)",
    "      WHERE elt LIKE pattern",
    "    )",
    "  );"]

def jsonObjectSetKey : HelperFunction where
  name := "json_object_set_key"
  parameters := "\"json\" jsonb, key_to_set text, value_to_set jsonb"
  returns := "jsonb"
  body := [
    "  SELECT (COALESCE(\"json\", '\x7b\x7d'::jsonb) - key_to_set)",
    "    || CASE WHEN value_to_set IS NULL THEN '\x7b\x7d'::jsonb " ++
      "ELSE jsonb_build_object(key_to_set, value_to_set) END;"]

def all : List HelperFunction :=
  [arrayAdd, arrayAddUnique, arrayRemove, arrayContains, arrayContainsAll,
    arrayContainsAllRegex, jsonObjectSetKey]

end HelperFunction
end DocSql
