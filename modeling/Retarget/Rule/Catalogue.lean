import Retarget.Rule.Basic

/-!
# The built-in rules

Rules that move scripts from the commands of one device cloud to those of another, grouped by what the commands are
about. `Rule.catalogue` lists them in the order of application, and `Rule.builtin` holds them ready for use.
-/

namespace Retarget.Rule.Catalogue

/-- Sessions. -/
def sessions : List RuleText := [
  { name := "init_driver"
    description := "Replace PerfectoMobileDriver(url, platform) with AppiumDriver and DesiredCapabilities"
    pattern := "PerfectoMobileDriver\\s*\\(\\s*\"([^\"]+)\"\\s*,\\s*\"([^\"]+)\"\\s*\\)"
    template := "AppiumDriver(new URL(\"$1\"), new DesiredCapabilities(\x7b\n  platformName: \"$2\",\n  automationName: \"Appium\"\n\x7d))" }]

/-- Clicks. -/
def clicks : List RuleText := [
  { name := "click_by_text"
    description := "Click located by PerfectoMobileBy.text becomes a By.xpath text match"
    pattern := "driver\\.findElement\\(PerfectoMobileBy\\.text\\(\"([^\"]+)\"\\)\\)\\.click\\(\\)"
    template := "driver.findElement(By.xpath(\"//*[@text='$1']\")).click()" },
  { name := "click_by_name"
    description := "Click located by PerfectoMobileBy.name becomes By.name"
    pattern := "driver\\.findElement\\(PerfectoMobileBy\\.name\\(\"([^\"]+)\"\\)\\)\\.click\\(\\)"
    template := "driver.findElement(By.name(\"$1\")).click()" },
  { name := "click_by_id"
    description := "Click located by PerfectoMobileBy.id becomes By.id"
    pattern := "driver\\.findElement\\(PerfectoMobileBy\\.id\\(\"([^\"]+)\"\\)\\)\\.click\\(\\)"
    template := "driver.findElement(By.id(\"$1\")).click()" },
  { name := "click_by_xpath"
    description := "Click located by PerfectoMobileBy.xpath becomes By.xpath"
    pattern := "driver\\.findElement\\(PerfectoMobileBy\\.xpath\\(\"([^\"]+)\"\\)\\)\\.click\\(\\)"
    template := "driver.findElement(By.xpath(\"$1\")).click()" }]

/-- Typing. -/
def typing : List RuleText := [
  { name := "send_keys_by_name"
    description := "sendKeys on a PerfectoMobileBy.name element becomes By.name"
    pattern := "driver\\.findElement\\(PerfectoMobileBy\\.name\\(\"([^\"]+)\"\\)\\)\\.sendKeys\\(\"([^\"]+)\"\\)"
    template := "driver.findElement(By.name(\"$1\")).sendKeys(\"$2\")" },
  { name := "send_keys_by_id"
    description := "sendKeys on a PerfectoMobileBy.id element becomes By.id"
    pattern := "driver\\.findElement\\(PerfectoMobileBy\\.id\\(\"([^\"]+)\"\\)\\)\\.sendKeys\\(\"([^\"]+)\"\\)"
    template := "driver.findElement(By.id(\"$1\")).sendKeys(\"$2\")" },
  { name := "send_keys_by_xpath"
    description := "sendKeys on a PerfectoMobileBy.xpath element becomes By.xpath"
    pattern := "driver\\.findElement\\(PerfectoMobileBy\\.xpath\\(\"([^\"]+)\"\\)\\)\\.sendKeys\\(\"([^\"]+)\"\\)"
    template := "driver.findElement(By.xpath(\"$1\")).sendKeys(\"$2\")" }]

/-- Waiting. -/
def waiting : List RuleText := [
  { name := "wait_text_present"
    description := "PerfectoMobileConditions.textPresent wait becomes until.elementLocated on a text xpath"
    pattern := "driver\\.wait\\(PerfectoMobileConditions\\.textPresent\\(\"([^\"]+)\"\\),\\s*(\\d+)\\)"
    template := "driver.wait(until.elementLocated(By.xpath(\"//*[contains(@text,'$1')]\")), $2)" },
  { name := "wait_element_displayed"
    description := "PerfectoMobileConditions.elementDisplayed wait becomes until.elementIsVisible"
    pattern := "driver\\.wait\\(PerfectoMobileConditions\\.elementDisplayed\\(([^)]+)\\),\\s*(\\d+)\\)"
    template := "driver.wait(until.elementIsVisible($1), $2)" },
  { name := "wait_element_enabled"
    description := "PerfectoMobileConditions.elementEnabled wait becomes until.elementIsEnabled"
    pattern := "driver\\.wait\\(PerfectoMobileConditions\\.elementEnabled\\(([^)]+)\\),\\s*(\\d+)\\)"
    template := "driver.wait(until.elementIsEnabled($1), $2)" }]

/-- Swipes. -/
def swipes : List RuleText := [
  { name := "swipe_coordinates"
    description := "mobile:touch:swipe between two points becomes a TouchAction press/moveTo/release"
    pattern := "driver\\.executeScript\\(\"mobile:touch:swipe\",\\s*\\\x7b\\s*\"start\":\\s*\\\x7b\\s*\"x\":\\s*(\\d+),\\s*\"y\":\\s*(\\d+)\\s*\\\x7d,\\s*\"end\":\\s*\\\x7b\\s*\"x\":\\s*(\\d+),\\s*\"y\":\\s*(\\d+)\\s*\\\x7d\\s*\\\x7d\\)"
    template := "new TouchAction(driver)\n  .press(\x7bx: $1, y: $2\x7d)\n  .moveTo(\x7bx: $3, y: $4\x7d)\n  .release()\n  .perform()" },
  { name := "swipe_direction"
    description := "mobile:swipe by direction becomes the Appium mobile: swipe command"
    pattern := "driver\\.executeScript\\(\"mobile:swipe\",\\s*\\\x7b\\s*\"direction\":\\s*\"([^\"]+)\"\\s*\\\x7d\\)"
    template := "driver.executeScript(\"mobile: swipe\", \x7b\"direction\": \"$1\"\x7d)" }]

/-- Scrolling. -/
def scrolling : List RuleText := [
  { name := "scroll_direction"
    description := "mobile:scroll by direction becomes the Appium mobile: scroll command"
    pattern := "driver\\.executeScript\\(\"mobile:scroll\",\\s*\\\x7b\\s*\"direction\":\\s*\"([^\"]+)\"\\s*\\\x7d\\)"
    template := "driver.executeScript(\"mobile: scroll\", \x7b\"direction\": \"$1\"\x7d)" }]

/-- Touches. -/
def touches : List RuleText := [
  { name := "tap"
    description := "mobile:touch:tap becomes a TouchAction tap"
    pattern := "driver\\.executeScript\\(\"mobile:touch:tap\",\\s*\\\x7b\\s*\"x\":\\s*(\\d+),\\s*\"y\":\\s*(\\d+)\\s*\\\x7d\\)"
    template := "new TouchAction(driver)\n  .tap(\x7bx: $1, y: $2\x7d)\n  .perform()" },
  { name := "long_press"
    description := "mobile:touch:longPress becomes a TouchAction longPress"
    pattern := "driver\\.executeScript\\(\"mobile:touch:longPress\",\\s*\\\x7b\\s*\"x\":\\s*(\\d+),\\s*\"y\":\\s*(\\d+),\\s*\"duration\":\\s*(\\d+)\\s*\\\x7d\\)"
    template := "new TouchAction(driver)\n  .longPress(\x7bx: $1, y: $2, duration: $3\x7d)\n  .release()\n  .perform()" },
  { name := "double_tap"
    description := "mobile:touch:doubleTap becomes two TouchAction taps"
    pattern := "driver\\.executeScript\\(\"mobile:touch:doubleTap\",\\s*\\\x7b\\s*\"x\":\\s*(\\d+),\\s*\"y\":\\s*(\\d+)\\s*\\\x7d\\)"
    template := "new TouchAction(driver)\n  .tap(\x7bx: $1, y: $2\x7d)\n  .wait(100)\n  .tap(\x7bx: $1, y: $2\x7d)\n  .perform()" }]

/-- Pinching. -/
def pinching : List RuleText := [
  { name := "pinch"
    description := "mobile:pinch becomes the Appium mobile: pinch command"
    pattern := "driver\\.executeScript\\(\"mobile:pinch\",\\s*\\\x7b\\s*\"scale\":\\s*([^,]+),\\s*\"velocity\":\\s*([^\x7d]+)\\s*\\\x7d\\)"
    template := "driver.executeScript(\"mobile: pinch\", \x7b\"scale\": $1, \"velocity\": $2\x7d)" }]

/-- Applications. -/
def applications : List RuleText := [
  { name := "open_app"
    description := "mobile:application:open becomes driver.activateApp"
    pattern := "driver\\.executeScript\\(\"mobile:application:open\",\\s*\\\x7b\\s*\"name\":\\s*\"([^\"]+)\"\\s*\\\x7d\\)"
    template := "driver.activateApp(\"$1\")" },
  { name := "close_app"
    description := "mobile:application:close becomes driver.terminateApp"
    pattern := "driver\\.executeScript\\(\"mobile:application:close\",\\s*\\\x7b\\s*\"name\":\\s*\"([^\"]+)\"\\s*\\\x7d\\)"
    template := "driver.terminateApp(\"$1\")" },
  { name := "install_app"
    description := "mobile:application:install becomes driver.installApp"
    pattern := "driver\\.executeScript\\(\"mobile:application:install\",\\s*\\\x7b\\s*\"file\":\\s*\"([^\"]+)\"\\s*\\\x7d\\)"
    template := "driver.installApp(\"$1\")" },
  { name := "uninstall_app"
    description := "mobile:application:uninstall becomes driver.removeApp"
    pattern := "driver\\.executeScript\\(\"mobile:application:uninstall\",\\s*\\\x7b\\s*\"name\":\\s*\"([^\"]+)\"\\s*\\\x7d\\)"
    template := "driver.removeApp(\"$1\")" },
  { name := "reset_app"
    description := "mobile:application:reset becomes driver.resetApp (the app name is dropped)"
    pattern := "driver\\.executeScript\\(\"mobile:application:reset\",\\s*\\\x7b\\s*\"name\":\\s*\"([^\"]+)\"\\s*\\\x7d\\)"
    template := "driver.resetApp()" },
  { name := "background_app"
    description := "mobile:application:background becomes driver.runAppInBackground"
    pattern := "driver\\.executeScript\\(\"mobile:application:background\",\\s*\\\x7b\\s*\"seconds\":\\s*(\\d+)\\s*\\\x7d\\)"
    template := "driver.runAppInBackground(Duration.ofSeconds($1))" }]

/-- The handset. -/
def handset : List RuleText := [
  { name := "unlock_device"
    description := "mobile:handset:ready becomes driver.unlockDevice"
    pattern := "driver\\.executeScript\\(\"mobile:handset:ready\"\\)"
    template := "driver.unlockDevice()" },
  { name := "press_key"
    description := "mobile:pressKey becomes driver.pressKey with a KeyEvent"
    pattern := "driver\\.executeScript\\(\"mobile:pressKey\",\\s*\\\x7b\\s*\"key\":\\s*\"([^\"]+)\"\\s*\\\x7d\\)"
    template := "driver.pressKey(new KeyEvent($1))" },
  { name := "lock_device"
    description := "mobile:handset:lock becomes driver.lockDevice"
    pattern := "driver\\.executeScript\\(\"mobile:handset:lock\",\\s*\\\x7b\\s*\"seconds\":\\s*(\\d+)\\s*\\\x7d\\)"
    template := "driver.lockDevice(Duration.ofSeconds($1))" },
  { name := "reboot_device"
    description := "mobile:handset:reboot becomes a mobile: shell reboot"
    pattern := "driver\\.executeScript\\(\"mobile:handset:reboot\"\\)"
    template := "driver.executeScript(\"mobile: shell\", \x7b\"command\": \"reboot\"\x7d)" }]

/-- Location. -/
def location : List RuleText := [
  { name := "set_location"
    description := "mobile:location:set becomes driver.setLocation"
    pattern := "driver\\.executeScript\\(\"mobile:location:set\",\\s*\\\x7b\\s*\"latitude\":\\s*([^,]+),\\s*\"longitude\":\\s*([^,]+),\\s*\"altitude\":\\s*([^\x7d]+)\\s*\\\x7d\\)"
    template := "driver.setLocation(new Location($1, $2, $3))" }]

/-- The browser. -/
def browser : List RuleText := [
  { name := "open_url"
    description := "mobile:browser:open becomes driver.get"
    pattern := "driver\\.executeScript\\(\"mobile:browser:open\",\\s*\\\x7b\\s*\"url\":\\s*\"([^\"]+)\"\\s*\\\x7d\\)"
    template := "driver.get(\"$1\")" }]

/-- Screenshots. -/
def screenshots : List RuleText := [
  { name := "screenshot"
    description := "mobile:screen:image becomes driver.getScreenshotAs"
    pattern := "driver\\.executeScript\\(\"mobile:screen:image\"\\)"
    template := "driver.getScreenshotAs(OutputType.FILE)" }]

/-- Visual checks. -/
def visualChecks : List RuleText := [
  { name := "find_image"
    description := "mobile:image:find becomes driver.findElement(By.image(...))"
    pattern := "driver\\.executeScript\\(\"mobile:image:find\",\\s*\\\x7b\\s*\"content\":\\s*\"([^\"]+)\"\\s*\\\x7d\\)"
    template := "driver.findElement(By.image(\"$1\"))" },
  { name := "click_image"
    description := "mobile:image:click becomes a click on By.image"
    pattern := "driver\\.executeScript\\(\"mobile:image:click\",\\s*\\\x7b\\s*\"content\":\\s*\"([^\"]+)\"\\s*\\\x7d\\)"
    template := "driver.findElement(By.image(\"$1\")).click()" },
  { name := "find_text"
    description := "mobile:text:find becomes a By.xpath contains(@text) lookup"
    pattern := "driver\\.executeScript\\(\"mobile:text:find\",\\s*\\\x7b\\s*\"content\":\\s*\"([^\"]+)\"\\s*\\\x7d\\)"
    template := "driver.findElement(By.xpath(\"//*[contains(@text,'$1')]\"))" }]

/-- Fingerprints. -/
def fingerprints : List RuleText := [
  { name := "fingerprint"
    description := "mobile:fingerprint becomes the Appium mobile: performBiometric command"
    pattern := "driver\\.executeScript\\(\"mobile:fingerprint\",\\s*\\\x7b\\s*\"operation\":\\s*\"([^\"]+)\"\\s*\\\x7d\\)"
    template := "driver.executeScript(\"mobile: performBiometric\", \x7b\"type\": \"$1\"\x7d)" }]

/-- The network. -/
def network : List RuleText := [
  { name := "toggle_wifi"
    description := "mobile:network:settings wifi becomes driver.toggleWifi"
    pattern := "driver\\.executeScript\\(\"mobile:network:settings\",\\s*\\\x7b\\s*\"wifi\":\\s*\"([^\"]+)\"\\s*\\\x7d\\)"
    template := "driver.toggleWifi()" }]

/-- Files. -/
def files : List RuleText := [
  { name := "pull_file"
    description := "mobile:file:download becomes driver.pullFile on the device path"
    pattern := "driver\\.executeScript\\(\"mobile:file:download\",\\s*\\\x7b\\s*\"source\":\\s*\"([^\"]+)\",\\s*\"target\":\\s*\"([^\"]+)\"\\s*\\\x7d\\)"
    template := "driver.pullFile(\"$1\")" },
  { name := "push_file"
    description := "mobile:file:upload becomes driver.pushFile(target, source)"
    pattern := "driver\\.executeScript\\(\"mobile:file:upload\",\\s*\\\x7b\\s*\"source\":\\s*\"([^\"]+)\",\\s*\"target\":\\s*\"([^\"]+)\"\\s*\\\x7d\\)"
    template := "driver.pushFile(\"$2\", \"$1\")" }]

/-- Timers. -/
def timers : List RuleText := [
  { name := "timer_start"
    description := "mobile:timer:start becomes a commented window timestamp script"
    pattern := "driver\\.executeScript\\(\"mobile:timer:start\",\\s*\\\x7b\\s*\"timerId\":\\s*\"([^\"]+)\"\\s*\\\x7d\\)"
    template := "// Timer operations are not directly supported in Appium\n// Use JavaScript custom implementation instead\ndriver.executeScript(\"window.perfecto_timer_$1 = new Date().getTime();\")" },
  { name := "timer_stop"
    description := "mobile:timer:stop becomes a commented window timestamp script"
    pattern := "driver\\.executeScript\\(\"mobile:timer:stop\",\\s*\\\x7b\\s*\"timerId\":\\s*\"([^\"]+)\"\\s*\\\x7d\\)"
    template := "// Timer operations are not directly supported in Appium\n// Use JavaScript custom implementation instead\ndriver.executeScript(\"window.perfecto_timer_$1_end = new Date().getTime();\")" }]

/-- Notifications. -/
def notifications : List RuleText := [
  { name := "open_notifications"
    description := "mobile:notifications:open becomes driver.openNotifications"
    pattern := "driver\\.executeScript\\(\"mobile:notifications:open\"\\)"
    template := "driver.openNotifications()" }]

/-- Verification. -/
def verification : List RuleText := [
  { name := "is_displayed_by_id"
    description := "isDisplayed on a PerfectoMobileBy.id element becomes By.id"
    pattern := "driver\\.findElement\\(PerfectoMobileBy\\.id\\(\"([^\"]+)\"\\)\\)\\.isDisplayed\\(\\)"
    template := "driver.findElement(By.id(\"$1\")).isDisplayed()" },
  { name := "is_displayed_by_name"
    description := "isDisplayed on a PerfectoMobileBy.name element becomes By.name"
    pattern := "driver\\.findElement\\(PerfectoMobileBy\\.name\\(\"([^\"]+)\"\\)\\)\\.isDisplayed\\(\\)"
    template := "driver.findElement(By.name(\"$1\")).isDisplayed()" },
  { name := "is_displayed_by_xpath"
    description := "isDisplayed on a PerfectoMobileBy.xpath element becomes By.xpath"
    pattern := "driver\\.findElement\\(PerfectoMobileBy\\.xpath\\(\"([^\"]+)\"\\)\\)\\.isDisplayed\\(\\)"
    template := "driver.findElement(By.xpath(\"$1\")).isDisplayed()" }]

/-- Values. -/
def values : List RuleText := [
  { name := "get_value_by_text"
    description := "getValue on a PerfectoMobileBy.text element becomes getText on a By.xpath match"
    pattern := "driver\\.findElement\\(PerfectoMobileBy\\.text\\(\"([^\"]+)\"\\)\\)\\.getValue\\(\\)"
    template := "driver.findElement(By.xpath(\"//*[@text='$1']\")).getText()" },
  { name := "get_value_by_id"
    description := "getValue on a PerfectoMobileBy.id element becomes getText on By.id"
    pattern := "driver\\.findElement\\(PerfectoMobileBy\\.id\\(\"([^\"]+)\"\\)\\)\\.getValue\\(\\)"
    template := "driver.findElement(By.id(\"$1\")).getText()" }]

/-- Imports. -/
def imports : List RuleText := [
  { name := "replace_imports"
    description := "Replace com.perfectomobile imports with the Appium and Selenium imports"
    pattern := "import\\s+com\\.perfectomobile\\..+;"
    template := "import io.appium.java_client.AppiumDriver;\nimport io.appium.java_client.TouchAction;\nimport io.appium.java_client.touch.WaitOptions;\nimport io.appium.java_client.touch.offset.PointOption;\nimport org.openqa.selenium.By;\nimport org.openqa.selenium.support.ui.WebDriverWait;\nimport org.openqa.selenium.support.ui.ExpectedConditions as until;\nimport org.openqa.selenium.remote.DesiredCapabilities;\nimport java.time.Duration;\nimport org.openqa.selenium.OutputType;" }]

end Retarget.Rule.Catalogue

namespace Retarget.Rule

open Catalogue

/-- All built-in rules as written, in the order of application. -/
def catalogue : List RuleText :=
  sessions ++ clicks ++ typing ++ waiting ++ swipes ++ scrolling ++ touches ++ pinching ++ applications ++
    handset ++ location ++ browser ++ screenshots ++ visualChecks ++ fingerprints ++ network ++ files ++
    timers ++ notifications ++ verification ++ values ++ imports

/-- The built-in rules. -/
def builtin : List Rule := catalogue.filterMap fun r => r.compile.toOption

end Retarget.Rule
