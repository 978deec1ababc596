import McpProxyFixtures.Python.Str

/-!
# The jokes and translator servers

`eval/src/mcpproxy_eval/servers/jokes.py` and `translator.py` answer from fixed tables,
and each refuses an unknown request with the list of what it would have accepted:
`available_categories` for jokes, `available_phrases` and `supported_languages` for
translations.  This module gives the tables and the tools over them, with the lookups after
`lower()` and `lower().strip()` as the source makes them.  What they answer depends on the
fixed tables alone, so it is left to the definitions, which evaluate.
-/

namespace McpProxyFixtures
namespace Servers

open Python

/-! ## `jokes.py` -/

/-- An entry of `JOKES`. -/
structure Joke where
  id : Nat
  category : String
  joke : String
  punchline : String
deriving DecidableEq

/-- `JOKES`. -/
def jokes : List Joke :=
  [⟨1, "programming", "Why do programmers prefer dark mode?", "Because light attracts bugs!"⟩,
    ⟨2, "programming", "How many programmers does it take to change a light bulb?",
      "None. That\x27s a hardware problem."⟩,
    ⟨3, "dad", "I\x27m reading a book about anti-gravity.", "It\x27s impossible to put down!"⟩,
    ⟨4, "dad", "Why don\x27t scientists trust atoms?", "Because they make up everything!"⟩,
    ⟨5, "knock-knock", "Knock knock. Who\x27s there? Interrupting cow.",
      "Interrupting cow w-- MOO!"⟩]

/-- `get_random_joke()`: always `JOKES[2]`. -/
def getRandomJoke : Joke :=
  jokes.get ⟨2, by decide⟩

/-- The `available_categories` of `get_joke_by_category`'s error. -/
def availableCategories : List String :=
  ["programming", "dad", "knock-knock"]

/-- What `get_joke_by_category` returns. -/
inductive JokeByCategory where
  | joke (joke : Joke)
  | error (error : String) (availableCategories : List String)
deriving DecidableEq

/-- `get_joke_by_category(category)`: the first joke whose category matches after
`lower()`. -/
def getJokeByCategory (lowerNonAscii : Char → List Char) (category : String) : JokeByCategory :=
  match jokes.find? fun joke =>
      pyLower lowerNonAscii joke.category == pyLower lowerNonAscii category with
  | some joke => .joke joke
  | none => .error ("No jokes found for category: " ++ category) availableCategories

/-- What `get_all_jokes` returns. -/
structure AllJokes where
  jokes : List Joke
  totalCount : Nat
deriving DecidableEq

/-- `get_all_jokes()`. -/
def getAllJokes : AllJokes :=
  ⟨jokes, jokes.length⟩

/-! ## `translator.py` -/

/-- `TRANSLATIONS`: for each English phrase, its translation into each language. -/
def translations : List (String × List (String × String)) :=
  [("hello", [("spanish", "hola"), ("french", "bonjour"), ("german", "hallo"),
      ("italian", "ciao")]),
    ("goodbye", [("spanish", "adiós"), ("french", "au revoir"), ("german", "auf wiedersehen"),
      ("italian", "arrivederci")]),
    ("please", [("spanish", "por favor"), ("french", "s\x27il vous plaît"), ("german", "bitte"),
      ("italian", "per favore")]),
    ("thank you", [("spanish", "gracias"), ("french", "merci"), ("german", "danke"),
      ("italian", "grazie")]),
    ("yes", [("spanish", "sí"), ("french", "oui"), ("german", "ja"), ("italian", "sì")]),
    ("no", [("spanish", "no"), ("french", "non"), ("german", "nein"), ("italian", "no")]),
    ("water", [("spanish", "agua"), ("french", "eau"), ("german", "wasser"),
      ("italian", "acqua")]),
    ("food", [("spanish", "comida"), ("french", "nourriture"), ("german", "essen"),
      ("italian", "cibo")])]

/-- The `supported_languages` of `translate_text`'s error and of
`get_supported_languages`. -/
def supportedLanguages : List String :=
  ["spanish", "french", "german", "italian"]

/-- What `translate_text` returns; the constant `"confidence": 1.0` is left out. -/
inductive TranslateText where
  | translated (originalText translatedText sourceLanguage targetLanguage : String)
  | error (originalText error : String) (availablePhrases supportedLanguages : List String)
deriving DecidableEq

/-- `translate_text(text, target_language)`: both are looked up after `lower().strip()`. -/
def translateText (lowerNonAscii : Char → List Char) (text targetLanguage : String) :
    TranslateText :=
  match (dictGet translations (pyLowerStrip lowerNonAscii text)).bind fun phrase =>
      dictGet phrase (pyLowerStrip lowerNonAscii targetLanguage) with
  | some translatedText => .translated text translatedText "english" targetLanguage
  | none =>
    .error text ("Translation not available for \x27" ++ text ++ "\x27 to " ++ targetLanguage)
      (translations.map (·.1)) supportedLanguages

/-- `get_supported_languages()`. -/
def getSupportedLanguages : List String :=
  supportedLanguages

end Servers
end McpProxyFixtures
