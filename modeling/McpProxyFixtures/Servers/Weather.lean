import McpProxyFixtures.Python.Str

/-!
# The weather and time servers

`eval/src/mcpproxy_eval/servers/weather.py` answers from two tables, `WEATHER_DATA` and
`FORECAST_DATA`, and generates a forecast for any other city; `time.py` shifts one fixed
instant, `FIXED_TIME`, by the offset of a named timezone.  This module models the tools with
the fields of their answers and the texts of their errors.  Cities are looked up after
`lower()` and `strip()`, timezones after `upper()`; the Unicode tables of those methods
are parameters.  `WEATHER_DATA` writes pressures as decimals; they are hundredths here.
What the tools answer depends on the fixed tables and on at most seven requested days, so
it is left to the definitions, which evaluate.
-/

namespace McpProxyFixtures
namespace Servers

open Python

/-! ## `weather.py` -/

/-- An entry of `WEATHER_DATA`; `pressure` is in hundredths. -/
structure Weather where
  temperature : Int
  condition : String
  humidity : Int
  windSpeed : Int
  windDirection : String
  pressure : Nat
  visibility : Int
  uvIndex : Int
deriving DecidableEq

/-- `WEATHER_DATA`. -/
def weatherData : List (String × Weather) :=
  [("new york", ⟨72, "partly cloudy", 65, 8, "NW", 101325, 10, 6⟩),
    ("london", ⟨59, "light rain", 82, 12, "SW", 100850, 8, 2⟩),
    ("tokyo", ⟨77, "sunny", 58, 5, "E", 101870, 15, 8⟩),
    ("paris", ⟨64, "overcast", 73, 7, "W", 101130, 12, 3⟩),
    ("sydney", ⟨68, "clear", 45, 15, "SE", 102010, 20, 9⟩)]

/-- A day of a forecast. -/
structure ForecastDay where
  day : String
  high : Int
  low : Int
  condition : String
deriving DecidableEq

/-- `FORECAST_DATA`. -/
def forecastData : List (String × List ForecastDay) :=
  [("new york", [⟨"today", 75, 62, "partly cloudy"⟩, ⟨"tomorrow", 78, 65, "sunny"⟩,
      ⟨"day_after", 73, 60, "thunderstorms"⟩]),
    ("london", [⟨"today", 61, 48, "light rain"⟩, ⟨"tomorrow", 58, 45, "heavy rain"⟩,
      ⟨"day_after", 63, 50, "cloudy"⟩])]

/-- A weather alert. -/
structure Alert where
  type : String
  severity : String
  message : String
  expires : String
deriving DecidableEq

/-- `alerts_map` of `get_weather_alerts`. -/
def alertsMap : List (String × List Alert) :=
  [("miami", [⟨"hurricane_watch", "moderate", "Hurricane watch in effect until 6 PM EST",
      "2024-01-15T18:00:00Z"⟩]),
    ("phoenix", [⟨"excessive_heat", "high", "Excessive heat warning until midnight",
      "2024-01-15T07:00:00Z"⟩])]

/-- What `get_current_weather` returns: a stored entry with `units`, or the default entry
with a `note`. -/
inductive CurrentWeather where
  | known (city : String) (weather : Weather) (units : String)
  | unknown (city : String) (weather : Weather) (note : String)
deriving DecidableEq

/-- The weather fields of the answer. -/
def CurrentWeather.weather : CurrentWeather → Weather
  | .known _ w _ => w
  | .unknown _ w _ => w

/-- The entry `get_current_weather` answers with for a city it does not know. -/
def defaultWeather : Weather :=
  ⟨70, "unknown", 50, 10, "N", 101325, 10, 5⟩

/-- `get_current_weather(city)`. -/
def getCurrentWeather (lowerNonAscii : Char → List Char) (city : String) : CurrentWeather :=
  match dictGet weatherData (pyLowerStrip lowerNonAscii city) with
  | some weather => .known city weather "imperial"
  | none => .unknown city defaultWeather "Weather data not available for this location"

/-- What `get_forecast` returns. -/
structure Forecast where
  city : String
  forecast : List ForecastDay
  days : Nat
  units : String
deriving DecidableEq

/-- The forecast `get_forecast` generates for a city it does not know. -/
def generatedForecast (days : Nat) : List ForecastDay :=
  (List.range days).map fun (i : Nat) =>
    ⟨"day_" ++ toString (i + 1), 70 + 2 * (i : Int), 55 + (i : Int),
      ["sunny", "cloudy", "partly cloudy"].get ⟨i % 3, Nat.mod_lt _ (by decide)⟩⟩

/-- `get_forecast(city, days)`; `.error` is the `ValueError` it raises. -/
def getForecast (lowerNonAscii : Char → List Char) (city : String) (days : Int) :
    Except String Forecast :=
  if days < 1 ∨ days > 7 then .error "Forecast days must be between 1 and 7"
  else
    let forecast :=
      match dictGet forecastData (pyLowerStrip lowerNonAscii city) with
      | none => generatedForecast days.toNat
      | some stored => pySlice stored 0 days
    .ok ⟨city, forecast, forecast.length, "imperial"⟩

/-- What `get_weather_alerts` returns. -/
structure WeatherAlerts where
  city : String
  alerts : List Alert
  alertCount : Nat
deriving DecidableEq

/-- `get_weather_alerts(city)`. -/
def getWeatherAlerts (lowerNonAscii : Char → List Char) (city : String) : WeatherAlerts :=
  let alerts := (dictGet alertsMap (pyLowerStrip lowerNonAscii city)).getD []
  ⟨city, alerts, alerts.length⟩

/-- What `compare_weather` returns. -/
structure WeatherComparison where
  city1 : CurrentWeather
  city2 : CurrentWeather
  temperatureDifference : Int
  humidityDifference : Int
  warmerCity : String
  moreHumidCity : String
deriving DecidableEq

/-- `compare_weather(city1, city2)`. -/
def compareWeather (lowerNonAscii : Char → List Char) (city1 city2 : String) :
    WeatherComparison :=
  let weather1 := getCurrentWeather lowerNonAscii city1
  let weather2 := getCurrentWeather lowerNonAscii city2
  let tempDiff := weather1.weather.temperature - weather2.weather.temperature
  let humidityDiff := weather1.weather.humidity - weather2.weather.humidity
  ⟨weather1, weather2, tempDiff, humidityDiff, if tempDiff > 0 then city1 else city2,
    if humidityDiff > 0 then city1 else city2⟩

/-! ## `time.py` -/

/-- `timezone_offsets` of `get_current_time`, in hours. -/
def timezoneOffsets : List (String × Int) :=
  [("UTC", 0), ("EST", -5), ("PST", -8), ("CET", 1), ("JST", 9)]

/-- `%H`: an hour with two digits. -/
def pad2 (n : Nat) : String :=
  if n < 10 then "0" ++ toString n else toString n

/-- What `get_current_time` returns. -/
inductive CurrentTime where
  | unsupported (error : String) (supportedTimezones : List String)
  | time (timezone currentTime isoFormat : String) (unixTimestamp : Int)
deriving DecidableEq

/-- `get_current_time(timezone_name)`.  `FIXED_TIME` is 2024-06-15 14:30:00 UTC, POSIX time
1718461800; `replace(hour=...)` keeps the day and the timezone and raises `ValueError` for
an hour outside `0..23`. -/
def getCurrentTime (upperNonAscii : Char → List Char) (timezoneName : String) :
    Except String CurrentTime :=
  match dictGet timezoneOffsets (pyUpper upperNonAscii timezoneName) with
  | none =>
    .ok (.unsupported ("Timezone " ++ timezoneName ++ " not supported")
      (timezoneOffsets.map (·.1)))
  | some offset =>
    let hour := 14 + offset
    if hour < 0 ∨ hour > 23 then .error "hour must be in 0..23"
    else
      .ok (.time (pyUpper upperNonAscii timezoneName)
        ("2024-06-15 " ++ pad2 hour.toNat ++ ":30:00")
        ("2024-06-15T" ++ pad2 hour.toNat ++ ":30:00+00:00") (1718461800 + offset * 3600))

end Servers
end McpProxyFixtures
