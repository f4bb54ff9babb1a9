import Highlighter.Render.Data
import Highlighter.Render.Html
import Highlighter.Render.Terminal
import Highlighter.Render.Yaml

/-!
# Output formats

The formats that tokens can be written in, the names of the formats, and the one
function that writes tokens in any of them. Plain text is the texts of the tokens
put together; terminal colors fall back to it where colors are not wanted. The two
dumps are left to serializers, which may fail; `Serializers.standard` never does.
-/

namespace Highlighter

/-- A format for the output. -/
inductive OutputFormat where
  /-- Markup with classes for a style sheet. -/
  | html
  /-- Terminal colors. -/
  | ansi
  /-- A dump of the tokens as JSON. -/
  | json
  /-- A dump of the tokens as YAML. -/
  | yaml
  /-- The source as it is. -/
  | text
  deriving DecidableEq, Repr

namespace OutputFormat

/-- Every format. -/
def all : List OutputFormat := [html, ansi, json, yaml, text]

/-- The name of a format. -/
def name : OutputFormat → String
  | html => "html"
  | ansi => "ansi"
  | json => "json"
  | yaml => "yaml"
  | text => "text"

/-- The format with a name, in any case of ASCII letters. -/
def ofName? (s : Text) : Option OutputFormat := all.find? fun f => Text.eqIgnoreCase f.name.toList s

/-- The names in documents. -/
def documentNames : List (String × OutputFormat) := all.map fun f => (f.name, f)

/-- The text that reports a name no format has. -/
def unknownMessage (s : Text) : String :=
  "unknown format '" ++ String.ofList s ++ "' (expected one of: html, ansi, json, yaml, text)"

end OutputFormat

/-- The settings of the formats. -/
structure RenderOptions where
  /-- The settings of the markup. -/
  html : Html.Options := {}
  /-- Whether terminal colors are wanted. -/
  color : Bool := true
  deriving DecidableEq, Repr

/-- What writes tokens as structured data, or tells why it cannot. -/
structure Serializers where
  /-- The dump as JSON. -/
  json : List Token → Except Text Text
  /-- The dump as YAML. -/
  yaml : List Token → Except Text Text

/-- The serializers that always succeed. -/
def Serializers.standard : Serializers where
  json tokens := .ok (Json.render tokens)
  yaml tokens := .ok (Yaml.render tokens)

/-- Why tokens cannot be written in a format. -/
inductive FormatError where
  /-- There is no dump as JSON. -/
  | json (reason : Text)
  /-- There is no dump as YAML. -/
  | yaml (reason : Text)
  deriving DecidableEq, Repr

/-- The text that reports why tokens cannot be written. -/
def FormatError.message : FormatError → Text
  | json reason => "failed to serialize tokens as JSON: ".toList ++ reason
  | yaml reason => "failed to serialize tokens as YAML: ".toList ++ reason

/-- Tokens written in a format. -/
def OutputFormat.render (serializers : Serializers) (format : OutputFormat)
    (options : RenderOptions) (tokens : List Token) : Except FormatError Text :=
  match format with
  | html => .ok (Html.render options.html tokens)
  | ansi => .ok (if options.color then Terminal.render tokens else detokenize tokens)
  | json => (serializers.json tokens).mapError .json
  | yaml => (serializers.yaml tokens).mapError .yaml
  | text => .ok (detokenize tokens)

end Highlighter
