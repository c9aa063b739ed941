/-!
# The names a level uses

Six types are known by name to the placement and terrain code, and two more occur
in the built-in declarations. Slots and attributes that the code looks into are
named here as well, so that declarations and look-ups cannot drift apart.
-/

namespace LevelGraph.Names

/-- The root of a game document. -/
def gameType : String := "gameType"

/-- The folder that holds a game's cell references. -/
def placementsFolderType : String := "placementsFolderType"

/-- A reference to a cell document. -/
def placementsCellReferenceType : String := "placementsCellReferenceType"

/-- The root of a cell document. -/
def placementsDocumentType : String := "placementsDocumentType"

/-- An object placed in a cell. -/
def placementObjectType : String := "placementObjectType"

/-- The terrain of a game. -/
def terrainType : String := "terrainType"

/-- The base texture of a terrain. -/
def terrainBaseTextureType : String := "terrainBaseTextureType"

/-- One layer of a base texture. -/
def terrainBaseTextureStrataType : String := "terrainBaseTextureStrataType"

/-- The slot of a game for its placements folder. -/
def placementsFolderChild : String := "placementsFolder"

/-- The slot of a placements folder for its cell references. -/
def cellChild : String := "cell"

/-- The slot of a cell document for its placed objects. -/
def placementChild : String := "placement"

/-- The slot of a game for its terrain. -/
def terrainChild : String := "terrain"

/-- The slot of a terrain for its base texture. -/
def baseTextureChild : String := "baseTexture"

/-- The slot of a base texture for its layers. -/
def strataChild : String := "strata"

/-- The attribute for a display name. -/
def nameAttribute : String := "name"

/-- The attribute of a cell reference for the location of its cell. -/
def uriAttribute : String := "uri"

/-- Every name above: types first, then slots, then attributes. -/
def all : List String :=
  [gameType, placementsFolderType, placementsCellReferenceType, placementsDocumentType,
    placementObjectType, terrainType, terrainBaseTextureType, terrainBaseTextureStrataType,
    placementsFolderChild, cellChild, placementChild, terrainChild, baseTextureChild, strataChild,
    nameAttribute, uriAttribute]

end LevelGraph.Names
